import MapClient.Proofs.Consumption
import MapClient.Proofs.Playing
import MapClient.Proofs.Posting
import Mathlib.Data.Multiset.MapFold

/-!
# Operations that are performed together

Operations on one submitter share its client and the backend, and nothing else.
Each sends and comes to what it would by itself with the answers that it gets,
whatever becomes of the others, and where all answers are the same it does not
matter in which order they are handed out.
-/

set_option autoImplicit false

namespace MapClient.Session

open MapClient.Transport

section
variable {s : Submitter} {unreached : Network} {dispatches : List Dispatch}
  {ds ds' : List (Nat × Delivery)} {fs fs' : List Finished}

theorem served_played (h : Task.Served unreached (dispatches.map (task s)) ds fs) (i : Nat)
    (d : Dispatch) (hd : dispatches[i]? = some d) :
    ∃ f, fs[i]? = some f ∧ Played s unreached d (portion i ds) f := by
  have hi : i < fs.length := by
    rw [h.complete, List.length_map]
    exact (List.getElem?_eq_some_iff.mp hd).1
  refine ⟨fs[i], List.getElem?_eq_getElem hi, runs_task ?_⟩
  exact h.runs i (task s d) fs[i] (by rw [List.getElem?_map, hd]; rfl)
    (List.getElem?_eq_getElem hi)

theorem served_beyond (h : Task.Served unreached (dispatches.map (task s)) ds fs) (i : Nat)
    (hd : dispatches[i]? = none) : portion i ds = [] := by
  rw [portion_nil]
  intro hi
  obtain ⟨x, hx, rfl⟩ := List.mem_map.mp hi
  have howned := h.owned x hx
  rw [List.length_map] at howned
  have hlength := List.getElem?_eq_none_iff.mp hd
  omega

/-- Who sends nothing in one order sends nothing in any other. -/
theorem served_silent (h : Task.Served unreached (dispatches.map (task s)) ds fs)
    (h' : Task.Served unreached (dispatches.map (task s)) ds' fs') (i : Nat)
    (hnone : portion i ds = []) : portion i ds' = [] := by
  cases hd : dispatches[i]? with
  | none => exact served_beyond h' i hd
  | some d =>
    obtain ⟨f, -, hplayed⟩ := served_played h i d hd
    obtain ⟨f', -, hplayed'⟩ := served_played h' i d hd
    have hfirst := hplayed.first hplayed'
    rw [hnone] at hfirst
    cases hp : portion i ds' with
    | nil => rfl
    | cons x rest =>
      rw [hp] at hfirst
      cases hfirst

structure Uniform (s : Submitter) (unreached : Network) (dispatches : List Dispatch)
    (bytes : List UInt8) (ds : List (Nat × Delivery)) (fs : List Finished) : Prop where
  served : Task.Served unreached (dispatches.map (task s)) ds fs
  same : ∀ x ∈ ds, x.2.answer = bytes
  last : ∀ x ∈ ds, ∃ result, turn s.client x.2.request bytes = .over result

section
variable {bytes : List UInt8} (h : Uniform s unreached dispatches bytes ds fs)
  (h' : Task.Served unreached (dispatches.map (task s)) ds' fs')
include h

theorem Uniform.once (i : Nat) : (portion i ds).length ≤ 1 := by
  cases hd : dispatches[i]? with
  | none => simp [served_beyond h.served i hd]
  | some d =>
    obtain ⟨f, -, hplayed⟩ := served_played h.served i d hd
    apply hplayed.once bytes
    · intro x hx
      exact h.same (i, x) ((mem_portion i ds x).mp hx)
    · intro x hx
      exact h.last (i, x) ((mem_portion i ds x).mp hx)

include h'

/-- If the answers to a task begin as in another order, the task does the same. -/
theorem Uniform.alike (i : Nat) (d : Dispatch) (hd : dispatches[i]? = some d)
    (hhead : ∀ x rest, portion i ds' = x :: rest → x.answer = bytes) :
    ∃ f f', fs[i]? = some f ∧ fs'[i]? = some f' ∧ f.Like f' ∧
      List.Forall₂ Request.Like ((portion i ds).map (·.request))
        ((portion i ds').map (·.request)) := by
  obtain ⟨f, hf, hplayed⟩ := served_played h.served i d hd
  obtain ⟨f', hf', hplayed'⟩ := served_played h' i d hd
  have hsame : handed (portion i ds).length ((portion i ds').map (·.answer)) =
      handed (portion i ds).length ((portion i ds).map (·.answer)) := by
    -- a task gets the common answer once at most, so the first answers are all there is
    have hone := h.once i
    cases hp : portion i ds with
    | nil => rfl
    | cons x rest =>
      have hrest : rest = [] := by
        rw [hp, List.length_cons] at hone
        exact List.length_eq_zero_iff.mp (by omega)
      cases hp' : portion i ds' with
      | nil =>
        have hx := served_silent h' h.served i hp'
        rw [hp] at hx
        cases hx
      | cons x' rest' =>
        have hx : x.answer = bytes :=
          h.same (i, x) ((mem_portion i ds x).mp (hp ▸ List.mem_cons_self))
        simp [hrest, handed, hx, hhead x' rest' hp']
  obtain ⟨hrequests, hlike⟩ := hplayed.alike hplayed' hsame
  exact ⟨f, f', hf, hf', hlike, hrequests⟩

theorem Uniform.results (hhead : ∀ i x rest, portion i ds' = x :: rest → x.answer = bytes) :
    List.Forall₂ Finished.Like fs fs' := by
  have hlength : fs.length = dispatches.length := by
    rw [h.served.complete, List.length_map]
  have hlength' : fs'.length = dispatches.length := by
    rw [h'.complete, List.length_map]
  apply List.forall₂_iff_get.mpr
  refine ⟨hlength.trans hlength'.symm, fun i hi hi' => ?_⟩
  obtain ⟨f, f', hf, hf', hlike, -⟩ := h.alike h' i dispatches[i]
    (List.getElem?_eq_getElem (hlength ▸ hi)) (hhead i)
  rw [List.getElem?_eq_getElem hi] at hf
  rw [List.getElem?_eq_getElem hi'] at hf'
  obtain rfl := Option.some.inj hf
  obtain rfl := Option.some.inj hf'
  exact hlike

theorem Uniform.requests (hhead : ∀ i x rest, portion i ds' = x :: rest → x.answer = bytes) :
    Multiset.Rel Request.Like (ds.map (·.2.request) : Multiset Request)
      (ds'.map (·.2.request)) := by
  have hportions : ∀ i, List.Forall₂ (fun x y => x.request.Like y.request) (portion i ds)
      (portion i ds') := by
    intro i
    cases hd : dispatches[i]? with
    | none => simp [served_beyond h.served i hd, served_beyond h' i hd]
    | some d =>
      obtain ⟨f, f', -, -, -, hrequests⟩ := h.alike h' i d hd (hhead i)
      rwa [List.forall₂_map_left_iff, List.forall₂_map_right_iff] at hrequests
  have hmap : ∀ deliveries : List (Nat × Delivery),
      (deliveries.map (·.2.request) : Multiset Request) =
        (deliveries.map Prod.snd : Multiset Delivery).map (·.request) := by
    intro deliveries
    rw [Multiset.map_coe, List.map_map]
    rfl
  rw [hmap, hmap, Multiset.rel_map]
  exact rel_of_portions _ ds ds' hportions

theorem Uniform.begin {script : Script}
    (hanswers : ds'.map (·.2.answer) = handed ds'.length script)
    (hscript : ∀ k < ds.length, script.getD k World.blankAnswer = bytes) (i : Nat)
    (x : Delivery) (rest : List Delivery) (hp : portion i ds' = x :: rest) :
    x.answer = bytes := by
  have hfront := answers_begin ds' ds.length script bytes hanswers hscript
  -- a task whose first answer is the common one has no second
  have hone : ∀ i x rest, portion i ds' = x :: rest → x.answer = bytes → rest = [] := by
    intro i x rest hp hx
    cases hd : dispatches[i]? with
    | none =>
      rw [served_beyond h' i hd] at hp
      cases hp
    | some d =>
      obtain ⟨f, f', -, -, -, hrequests⟩ := h.alike h' i d hd fun y others hy => by
        rw [hp] at hy
        rwa [← (List.cons.inj hy).1]
      have hlength := hrequests.length_eq
      have honce := h.once i
      rw [List.length_map, List.length_map, hp, List.length_cons] at hlength
      exact List.length_eq_zero_iff.mp (by omega)
  have hwithin := portions_within ds ds' bytes (served_silent h.served h') hone hfront
  rw [List.take_of_length_le hwithin] at hfront
  exact hfront (i, x) ((mem_portion i ds' x).mp (hp ▸ List.mem_cons_self))

end

end

section
variable (env : Surroundings) (s : Submitter)

theorem answer_task (d : Dispatch) (w : World) :
    answer env s (.dispatch d) w =
      (⟨.finished ((task s d).run env (fresh w)).1,
          ((task s d).run env (fresh w)).2.received.reverse,
          ((task s d).run env (fresh w)).2.logged.reverse⟩,
        ((task s d).run env (fresh w)).2) := rfl

/-- Operations that are dispatched one after the other are served in order. -/
theorem run_served (dispatches : List Dispatch) (w : World) :
    ∃ ds fs,
      (run env s (dispatches.map .dispatch) w).map (·.result) = fs.map .finished ∧
      (run env s (dispatches.map .dispatch) w).flatMap (·.requests) = ds.map (·.2.request) ∧
      ds.map (·.2.answer) = handed ds.length w.script ∧
      Task.Served env.unreached (dispatches.map (task s)) ds fs := by
  induction dispatches generalizing w with
  | nil => exact ⟨[], [], rfl, rfl, rfl, Task.served_none env.unreached⟩
  | cons d dispatches ih =>
    obtain ⟨first, hhands, hruns⟩ := Task.run_hands env (task s d) (fresh w)
    obtain ⟨ds, fs, hresults, hrequests, hanswers, hserved⟩ :=
      ih ((task s d).run env (fresh w)).2
    refine ⟨_, _, ?_, ?_, ?_, hserved.cons hruns⟩
    · rw [List.map_cons, run_cons, answer_task, List.map_cons, hresults]
      rfl
    · rw [List.map_cons, run_cons, answer_task, List.flatMap_cons, hrequests, hhands.received]
      simp [fresh, behindOne, Function.comp_def]
    · have hfirst := hhands.answers
      rw [hhands.script] at hanswers
      simp only [fresh] at hfirst hanswers
      rw [List.length_append, handed_add, List.map_append]
      simp only [List.length_map, behindOne, List.map_map, Function.comp_def]
      rw [hfirst, hanswers]

theorem together_served (dispatches : List Dispatch) (turns : List Nat) (w : World) :
    ∃ fs ds,
      (answer env s (.together dispatches turns) w).1.result = .together 0 fs ∧
      (answer env s (.together dispatches turns) w).1.requests = ds.map (·.2.request) ∧
      ds.map (·.2.answer) = handed ds.length w.script ∧
      (answer env s (.together dispatches turns) w).2.script = w.script.drop ds.length ∧
      Task.Served env.unreached (dispatches.map (task s)) ds fs := by
  obtain ⟨ds, hhands, hserved⟩ :=
    Task.interleave_served env turns (dispatches.map (task s)) (fresh w)
  have hreceived := hhands.received
  have hanswers := hhands.answers
  have hscript := hhands.script
  rw [List.length_map] at hanswers hscript
  refine ⟨_, ds, rfl, ?_, ?_, hscript, hserved⟩
  · change (Task.interleave env turns (dispatches.map (task s)) (fresh w)).2.received.reverse = _
    rw [hreceived]
    simp [fresh, Function.comp_def]
  · rw [List.map_map] at hanswers
    exact hanswers

/-- What one of several tasks got and came to, as far as the others are
concerned: all is as if it were alone. -/
structure Apart (unreached : Network) (d : Dispatch) (own : List Delivery) (f : Finished) :
    Prop where
  alone : ∀ clock boundaries,
    let ran := (answer ⟨clock, boundaries, unreached⟩ s (.dispatch d)
      (.start (own.map (·.answer)))).1
    ran.result.Like (.finished f) ∧
      List.Forall₂ Request.Like ran.requests (own.map (·.request))
  first : ∀ clock boundaries w,
    Option.Rel Request.Like
      (answer ⟨clock, boundaries, unreached⟩ s (.dispatch d) w).1.requests.head?
      (own.map (·.request)).head?
  kept : if d.reporter = .collect ∧ d.calledOff = false then
      ∃ outcome, f = ⟨.ok, [outcome]⟩ ∧ outcome.url = s.endpoint d.operation.path
    else f.kept = []

theorem Played.apart {unreached : Network} {d : Dispatch} {own : List Delivery} {f : Finished}
    (h : Played s unreached d own f) : Apart s unreached d own f := by
  constructor
  · intro clock boundaries
    obtain ⟨ds, hhands, hruns⟩ := Task.run_hands ⟨clock, boundaries, unreached⟩ (task s d)
      (fresh (.start (own.map (·.answer))))
    have hsame : handed ds.length (own.map (·.answer)) =
        handed ds.length (ds.map (·.answer)) := by
      have hall := handed_all (ds.map (·.answer))
      rw [List.length_map] at hall
      rw [hall]
      exact hhands.answers.symm
    obtain ⟨hrequests, hlike⟩ := (runs_task hruns).alike h hsame
    rw [answer_task]
    constructor
    · exact .finished _ f hlike
    · rw [hhands.received]
      simpa [fresh, World.start] using hrequests
  · intro clock boundaries w
    obtain ⟨ds, hhands, hruns⟩ := Task.run_hands ⟨clock, boundaries, unreached⟩ (task s d)
      (fresh w)
    have hfirst := (runs_task hruns).first h
    rw [answer_task]
    dsimp only
    rw [hhands.received]
    simpa [fresh] using hfirst
  · cases h with
    | calledOff o reporter => simp
    | performed o reporter boundary result outcome ds hcourse hurl hending =>
      cases reporter with
      | collect => exact ⟨outcome, rfl, hurl⟩
      | log => simp [Reporter.finish]
      | panic => simp [Reporter.finish]

end

def threeDispatches : List Dispatch :=
  [⟨.submit (.server "A" "1.2.3.4"), .collect, false⟩, ⟨.list .servers, .collect, true⟩,
    ⟨.list .dimensions, .panic, false⟩]

attribute [local instance] Transport.Reader.usual

def stillSubmitter : Submitter := .ofBase ⟨false, none⟩ "http://[::1]"

end MapClient.Session
