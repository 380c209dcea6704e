import MapClient.Proofs.Exchange
import Mathlib.Data.List.Nodup
import Mathlib.Data.List.Perm.Subperm
import Mathlib.Data.Multiset.ZeroCons

/-!
# Tasks that take turns

Whatever the turns are, every request that reaches the backend belongs to one
task and gets one answer, and each task runs as if only its own requests had
been answered.
-/

set_option autoImplicit false

namespace MapClient

open MapClient.Transport

def handed : Nat → Script → List (List UInt8)
  | 0, _ => []
  | n + 1, script => script.headD World.blankAnswer :: handed n script.tail

theorem handed_add (m n : Nat) (script : Script) :
    handed (m + n) script = handed m script ++ handed n (script.drop m) := by
  induction m generalizing script with
  | zero => rw [Nat.zero_add, handed, List.nil_append, List.drop_zero]
  | succ m ih =>
    rw [Nat.add_right_comm, handed, handed, ih, List.drop_tail, List.cons_append]

theorem handed_all (script : Script) : handed script.length script = script := by
  induction script with
  | nil => rfl
  | cons bytes script ih => rw [List.length_cons, handed, List.headD_cons, List.tail_cons, ih]

theorem handed_getElem? (n k : Nat) (script : Script) (h : k < n) :
    (handed n script)[k]? = some (script.getD k World.blankAnswer) := by
  induction n generalizing k script with
  | zero => omega
  | succ n ih =>
    cases k with
    | zero => cases script <;> rfl
    | succ k =>
      rw [handed, List.getElem?_cons_succ, ih k script.tail (by omega)]
      cases script <;> simp

structure Delivery where
  request : Request
  answer : List UInt8

namespace World

structure Hands (w : World) (ds : List Delivery) (w' : World) : Prop where
  received : w'.received = (ds.map (·.request)).reverse ++ w.received
  answers : ds.map (·.answer) = handed ds.length w.script
  script : w'.script = w.script.drop ds.length

theorem hands_nothing (w w' : World) (hreceived : w'.received = w.received)
    (hscript : w'.script = w.script) : w.Hands [] w' := by
  constructor
  · exact hreceived
  · rfl
  · exact hscript

theorem hands_one (w : World) (request : Request) :
    w.Hands [⟨request, w.script.headD blankAnswer⟩] (w.after [request]) := by
  constructor <;> rfl

theorem Hands.trans {w w' w'' : World} {ds more : List Delivery} (h : w.Hands ds w')
    (h' : w'.Hands more w'') : w.Hands (ds ++ more) w'' := by
  constructor
  · rw [h'.received, h.received, List.map_append, List.reverse_append, List.append_assoc]
  · rw [List.map_append, h.answers, h'.answers, h.script, List.length_append, handed_add]
  · rw [h'.script, h.script, List.drop_drop, List.length_append]

end World

namespace Task

variable {α β : Type}

/-- A task can come to a value while it gets these answers, whatever the time is
and which boundaries there are. -/
inductive Runs (unreached : Network) : Task α → List Delivery → α → Prop
  | done (a : α) : Runs unreached (.done a) [] a
  | now (next : Instant → Task α) (t : Instant) (ds : List Delivery) (a : α)
    (h : Runs unreached (next t) ds a) : Runs unreached (.now next) ds a
  | boundary (next : String → Task α) (b : String) (ds : List Delivery) (a : α)
    (h : Runs unreached (next b) ds a) : Runs unreached (.boundary next) ds a
  | log (event : Log.Event) (next : Task α) (ds : List Delivery) (a : α)
    (h : Runs unreached next ds a) : Runs unreached (.log event next) ds a
  | lost (request : Request) (next : Reply → Task α) (fault : Http.ConnectFault)
    (ds : List Delivery) (a : α) (hu : unreached request.url = some fault)
    (h : Runs unreached (next (.error fault)) ds a) : Runs unreached (.ask request next) ds a
  | answered (request : Request) (next : Reply → Task α) (bytes : List UInt8)
    (ds : List Delivery) (a : α) (hu : unreached request.url = none)
    (h : Runs unreached (next (.ok bytes)) ds a) :
    Runs unreached (.ask request next) (⟨request, bytes⟩ :: ds) a

section
variable (unreached : Network)

/-- What a sequence of tasks gets is what the first gets and then what the
second gets. -/
theorem runs_bind (t : Task α) (f : α → Task β) (ds : List Delivery) (b : β)
    (h : Runs unreached (t.bind f) ds b) :
    ∃ before later a, ds = before ++ later ∧ Runs unreached t before a ∧
      Runs unreached (f a) later b := by
  induction t generalizing ds with
  | done a => exact ⟨[], ds, a, rfl, .done a, h⟩
  | now next ih =>
    cases h with
    | now next t ds b h =>
      obtain ⟨before, later, a, hds, hfirst, hrest⟩ := ih t ds h
      exact ⟨before, later, a, hds, .now next t before a hfirst, hrest⟩
  | boundary next ih =>
    cases h with
    | boundary next name ds b h =>
      obtain ⟨before, later, a, hds, hfirst, hrest⟩ := ih name ds h
      exact ⟨before, later, a, hds, .boundary next name before a hfirst, hrest⟩
  | log event next ih =>
    cases h with
    | log event next ds b h =>
      obtain ⟨before, later, a, hds, hfirst, hrest⟩ := ih ds h
      exact ⟨before, later, a, hds, .log event next before a hfirst, hrest⟩
  | ask request next ih =>
    cases h with
    | lost request next fault ds b hu h =>
      obtain ⟨before, later, a, hds, hfirst, hrest⟩ := ih _ ds h
      exact ⟨before, later, a, hds, .lost request next fault before a hu hfirst, hrest⟩
    | answered request next bytes ds b hu h =>
      obtain ⟨before, later, a, hds, hfirst, hrest⟩ := ih _ ds h
      exact ⟨⟨request, bytes⟩ :: before, later, a, by rw [hds, List.cons_append],
        .answered request next bytes before a hu hfirst, hrest⟩

theorem runs_seq (t : Task α) (f : α → Task β) (ds : List Delivery) (b : β)
    (h : Runs unreached (t >>= f) ds b) :
    ∃ before later a, ds = before ++ later ∧ Runs unreached t before a ∧
      Runs unreached (f a) later b :=
  runs_bind unreached t f ds b h

end

section
variable (env : Surroundings)

theorem step_hands (t : Task α) (w : World) :
    ∃ ds, w.Hands ds (t.step env w).2 ∧ ∀ more a,
      Runs env.unreached (t.step env w).1 more a → Runs env.unreached t (ds ++ more) a := by
  cases t with
  | done a => exact ⟨[], w.hands_nothing w rfl rfl, fun more a h => h⟩
  | now next =>
    exact ⟨[], w.hands_nothing _ rfl rfl, fun more a h => .now next _ more a h⟩
  | boundary next =>
    exact ⟨[], w.hands_nothing _ rfl rfl, fun more a h => .boundary next _ more a h⟩
  | log event next =>
    exact ⟨[], w.hands_nothing _ rfl rfl, fun more a h => .log event next more a h⟩
  | ask request next =>
    cases hu : env.unreached request.url with
    | some fault =>
      rw [step, World.reply_unreached env w request fault hu]
      exact ⟨[], w.hands_nothing w rfl rfl, fun more a h => .lost request next fault more a hu h⟩
    | none =>
      rw [step, World.reply_reached env w request hu]
      exact ⟨_, w.hands_one request, fun more a h => .answered request next _ more a hu h⟩

theorem run_hands (t : Task α) (w : World) :
    ∃ ds, w.Hands ds (t.run env w).2 ∧ Runs env.unreached t ds (t.run env w).1 := by
  induction t generalizing w with
  | done a => exact ⟨[], w.hands_nothing w rfl rfl, .done a⟩
  | now next ih =>
    obtain ⟨ds, hhands, hstep⟩ := step_hands env (.now next) w
    obtain ⟨more, hmore, hruns⟩ := ih _ _
    exact ⟨ds ++ more, hhands.trans hmore, hstep more _ hruns⟩
  | boundary next ih =>
    obtain ⟨ds, hhands, hstep⟩ := step_hands env (.boundary next) w
    obtain ⟨more, hmore, hruns⟩ := ih _ _
    exact ⟨ds ++ more, hhands.trans hmore, hstep more _ hruns⟩
  | log event next ih =>
    obtain ⟨ds, hhands, hstep⟩ := step_hands env (.log event next) w
    obtain ⟨more, hmore, hruns⟩ := ih _
    exact ⟨ds ++ more, hhands.trans hmore, hstep more _ hruns⟩
  | ask request next ih =>
    obtain ⟨ds, hhands, hstep⟩ := step_hands env (.ask request next) w
    obtain ⟨more, hmore, hruns⟩ := ih _ _
    exact ⟨ds ++ more, hhands.trans hmore, hstep more _ hruns⟩

end

end Task

def portion (i : Nat) (ds : List (Nat × Delivery)) : List Delivery :=
  (ds.filter fun d => d.1 = i).map Prod.snd

theorem portion_append (i : Nat) (ds more : List (Nat × Delivery)) :
    portion i (ds ++ more) = portion i ds ++ portion i more := by
  rw [portion, List.filter_append, List.map_append]
  rfl

theorem portion_cons_own (i : Nat) (d : Delivery) (ds : List (Nat × Delivery)) :
    portion i ((i, d) :: ds) = d :: portion i ds := by
  simp [portion]

theorem portion_cons_other (i : Nat) (d : Nat × Delivery) (ds : List (Nat × Delivery))
    (h : d.1 ≠ i) : portion i (d :: ds) = portion i ds := by
  simp [portion, h]

theorem portion_own (i : Nat) (ds : List Delivery) :
    portion i (ds.map fun d => (i, d)) = ds := by
  induction ds with
  | nil => rfl
  | cons d ds ih => simpa [portion] using ih

theorem portion_other (i j : Nat) (ds : List Delivery) (h : j ≠ i) :
    portion i (ds.map fun d => (j, d)) = [] := by
  simp [portion, h]

def behindOne (ds : List (Nat × Delivery)) : List (Nat × Delivery) :=
  ds.map fun d => (d.1 + 1, d.2)

theorem portion_behindOne_zero (ds : List (Nat × Delivery)) : portion 0 (behindOne ds) = [] := by
  induction ds with
  | nil => rfl
  | cons d ds ih => simpa [portion, behindOne] using ih

theorem portion_behindOne (i : Nat) (ds : List (Nat × Delivery)) :
    portion (i + 1) (behindOne ds) = portion i ds := by
  induction ds with
  | nil => rfl
  | cons d ds ih =>
    by_cases h : d.1 = i
    · simpa [portion, behindOne, h] using ih
    · simpa [portion, behindOne, h] using ih

theorem mem_portion (i : Nat) (ds : List (Nat × Delivery)) (d : Delivery) :
    d ∈ portion i ds ↔ (i, d) ∈ ds := by
  simp [portion]

theorem portion_nil (i : Nat) (ds : List (Nat × Delivery)) :
    portion i ds = [] ↔ i ∉ ds.map Prod.fst := by
  rw [List.eq_nil_iff_forall_not_mem]
  simp [mem_portion]

theorem count_owner (i : Nat) (ds : List (Nat × Delivery)) :
    (ds.map Prod.fst).count i = (portion i ds).length := by
  induction ds with
  | nil => rfl
  | cons d ds ih =>
    obtain ⟨j, x⟩ := d
    by_cases h : j = i
    · rw [h, portion_cons_own, List.map_cons, List.count_cons_self, List.length_cons, ih]
    · rw [portion_cons_other i (j, x) ds h, List.map_cons, List.count_cons_of_ne h, ih]

theorem portion_split (i : Nat) (ds : List (Nat × Delivery)) (x : Delivery)
    (rest : List Delivery) (h : portion i ds = x :: rest) :
    ∃ front back, ds = front ++ (i, x) :: back ∧ portion i front = [] ∧
      portion i back = rest := by
  obtain ⟨⟨j, y⟩, others, hfilter, hy, hothers⟩ := List.map_eq_cons_iff.mp h
  obtain ⟨front, back, hds, hnone, hj, hlater⟩ := List.filter_eq_cons_iff.mp hfilter
  obtain rfl : j = i := by simpa using hj
  obtain rfl : y = x := hy
  refine ⟨front, back, hds, ?_, ?_⟩
  · rw [portion, List.filter_eq_nil_iff.mpr hnone, List.map_nil]
  · rw [portion, hlater, hothers]

/-- Deliveries are related if those of each owner are, in their order. -/
theorem rel_of_portions (R : Delivery → Delivery → Prop) (ds ds' : List (Nat × Delivery))
    (h : ∀ i, List.Forall₂ R (portion i ds) (portion i ds')) :
    Multiset.Rel R (ds.map Prod.snd : Multiset Delivery) (ds'.map Prod.snd) := by
  -- the partner of the first delivery is the first of its owner, wherever that stands
  induction ds generalizing ds' with
  | nil =>
    cases ds' with
    | nil => exact .zero
    | cons d' ds' =>
      have hnone : portion d'.1 (d' :: ds') = [] := List.forall₂_nil_left_iff.mp (h d'.1)
      simp [portion] at hnone
  | cons d ds ih =>
    obtain ⟨i, x⟩ := d
    have hi := h i
    rw [portion_cons_own] at hi
    obtain ⟨y, rest, hxy, hrest, hportion⟩ := List.forall₂_cons_left_iff.mp hi
    obtain ⟨front, back, rfl, hfront, hback⟩ := portion_split i ds' y rest hportion
    have hothers : ∀ j, List.Forall₂ R (portion j ds) (portion j (front ++ back)) := by
      intro j
      rw [portion_append]
      by_cases hj : i = j
      · rw [← hj, hfront, hback]
        exact hrest
      · have hj' := h j
        rwa [portion_append, portion_cons_other j (i, x) ds hj,
          portion_cons_other j (i, y) back hj] at hj'
    have hperm : ((front ++ (i, y) :: back).map Prod.snd : Multiset Delivery) =
        y ::ₘ ((front ++ back).map Prod.snd : Multiset Delivery) := by
      rw [Multiset.cons_coe, Multiset.coe_eq_coe]
      exact List.perm_middle.map Prod.snd
    rw [hperm]
    exact .cons hxy (ih (front ++ back) hothers)

theorem answers_begin (ds : List (Nat × Delivery)) (n : Nat) (script : Script)
    (bytes : List UInt8) (h : ds.map (·.2.answer) = handed ds.length script)
    (hscript : ∀ k < n, script.getD k World.blankAnswer = bytes) :
    ∀ x ∈ ds.take n, x.2.answer = bytes := by
  intro x hx
  obtain ⟨k, hk⟩ := List.mem_iff_getElem?.mp hx
  have hkn : k < n := by
    have hlt := (List.getElem?_eq_some_iff.mp hk).1
    rw [List.length_take] at hlt
    omega
  rw [List.getElem?_take_of_lt hkn] at hk
  have hget : (ds.map (·.2.answer))[k]? = (handed ds.length script)[k]? := by rw [h]
  rw [List.getElem?_map, hk, handed_getElem? ds.length k script
    (List.getElem?_eq_some_iff.mp hk).1, hscript k hkn] at hget
  exact Option.some.inj hget

section
variable (bytes : List UInt8) (front back : List (Nat × Delivery))
  (hone : ∀ i x rest, portion i (front ++ back) = x :: rest → x.answer = bytes → rest = [])
  (hfront : ∀ x ∈ front, x.2.answer = bytes)
include hone hfront

theorem front_once (i : Nat) (hi : i ∈ front.map Prod.fst) :
    (portion i front).length = 1 ∧ portion i back = [] := by
  obtain ⟨x, rest, hcons⟩ := List.exists_cons_of_ne_nil fun h => (portion_nil i front).mp h hi
  have hx : (i, x) ∈ front := by
    rw [← mem_portion, hcons]
    exact List.mem_cons_self
  have hrest := hone i x (rest ++ portion i back)
    (by rw [portion_append, hcons, List.cons_append]) (hfront (i, x) hx)
  obtain ⟨hr, hb⟩ := List.append_eq_nil_iff.mp hrest
  rw [hcons, hr]
  exact ⟨rfl, hb⟩

theorem front_nodup : (front.map Prod.fst).Nodup := by
  rw [List.nodup_iff_count_le_one]
  intro i
  by_cases hi : i ∈ front.map Prod.fst
  · rw [count_owner, (front_once bytes front back hone hfront i hi).1]
  · rw [List.count_eq_zero_of_not_mem hi]
    exact Nat.zero_le 1

end

/-- If an answer lets no owner go on, and no one gets anything who got nothing
the other time, there are no more deliveries than answers of that kind. -/
theorem portions_within (ds ds' : List (Nat × Delivery)) (bytes : List UInt8)
    (hnone : ∀ i, portion i ds = [] → portion i ds' = [])
    (hone : ∀ i x rest, portion i ds' = x :: rest → x.answer = bytes → rest = [])
    (hfront : ∀ x ∈ ds'.take ds.length, x.2.answer = bytes) : ds'.length ≤ ds.length := by
  by_contra hlong
  have hsubset : ds'.map Prod.fst ⊆ ds.map Prod.fst := by
    intro i hi
    by_contra hno
    exact (portion_nil i ds').mp (hnone i ((portion_nil i ds).mpr hno)) hi
  rw [← List.take_append_drop ds.length ds'] at hone
  have hnodup := front_nodup bytes _ _ hone hfront
  -- the first delivery too many goes to an owner of its own
  obtain ⟨z, hz⟩ : ∃ z, z ∈ ds'.drop ds.length :=
    List.exists_mem_of_ne_nil _ (by rw [ne_eq, List.drop_eq_nil_iff]; omega)
  have hzfront : z.1 ∉ (ds'.take ds.length).map Prod.fst := by
    intro hmem
    have hgone := (front_once bytes _ _ hone hfront z.1 hmem).2
    exact (portion_nil z.1 _).mp hgone (List.mem_map_of_mem hz)
  have hmore : z.1 :: (ds'.take ds.length).map Prod.fst ⊆ ds.map Prod.fst := by
    intro i hi
    apply hsubset
    rcases List.mem_cons.mp hi with rfl | hi
    · exact List.mem_map_of_mem (List.mem_of_mem_drop hz)
    · exact List.map_subset Prod.fst (List.take_subset ds.length ds') hi
  have hlength := ((List.nodup_cons.mpr ⟨hzfront, hnodup⟩).subperm hmore).length_le
  simp only [List.length_cons, List.length_map, List.length_take] at hlength
  omega

namespace Task

variable {α : Type}

structure Served (unreached : Network) (tasks : List (Task α)) (ds : List (Nat × Delivery))
    (results : List α) : Prop where
  owned : ∀ d ∈ ds, d.1 < tasks.length
  complete : results.length = tasks.length
  runs : ∀ i t a, tasks[i]? = some t → results[i]? = some a → Runs unreached t (portion i ds) a

theorem served_none (unreached : Network) : Served unreached ([] : List (Task α)) [] [] := by
  constructor
  · intro d hd
    cases hd
  · rfl
  · intro i t a ht
    cases ht

theorem Served.cons {unreached : Network} {t : Task α} {tasks : List (Task α)} {a : α}
    {results : List α} {first : List Delivery} {ds : List (Nat × Delivery)}
    (hfirst : Runs unreached t first a) (h : Served unreached tasks ds results) :
    Served unreached (t :: tasks) ((first.map fun d => (0, d)) ++ behindOne ds)
      (a :: results) := by
  constructor
  · intro d hd
    rcases List.mem_append.mp hd with hd | hd
    · obtain ⟨e, -, rfl⟩ := List.mem_map.mp hd
      exact Nat.succ_pos tasks.length
    · obtain ⟨e, he, rfl⟩ := List.mem_map.mp hd
      exact Nat.succ_lt_succ (h.owned e he)
  · rw [List.length_cons, List.length_cons, h.complete]
  · intro i t' a' ht ha
    rw [portion_append]
    cases i with
    | zero =>
      obtain rfl := Option.some.inj ht
      obtain rfl := Option.some.inj ha
      rwa [portion_own, portion_behindOne_zero, List.append_nil]
    | succ i =>
      rw [portion_other (i + 1) 0 first (Nat.succ_ne_zero i).symm, portion_behindOne,
        List.nil_append]
      exact h.runs i t' a' ht ha

/-- A step of one task before everything else. -/
theorem Served.step {unreached : Network} {t t' : Task α} {tasks : List (Task α)} {i : Nat}
    {results : List α} {first : List Delivery} {ds : List (Nat × Delivery)}
    (ht : tasks[i]? = some t)
    (hstep : ∀ more a, Runs unreached t' more a → Runs unreached t (first ++ more) a)
    (h : Served unreached (tasks.set i t') ds results) :
    Served unreached tasks ((first.map fun d => (i, d)) ++ ds) results := by
  have hi : i < tasks.length := (List.getElem?_eq_some_iff.mp ht).1
  constructor
  · intro d hd
    rcases List.mem_append.mp hd with hd | hd
    · obtain ⟨e, -, rfl⟩ := List.mem_map.mp hd
      exact hi
    · have hd := h.owned d hd
      rwa [List.length_set] at hd
  · rw [h.complete, List.length_set]
  · intro j u a hu ha
    rw [portion_append]
    by_cases hj : i = j
    · obtain rfl := hj
      obtain rfl := Option.some.inj (ht.symm.trans hu)
      rw [portion_own]
      exact hstep _ a (h.runs i t' a (List.getElem?_set_self hi) ha)
    · rw [portion_other j i first hj, List.nil_append]
      exact h.runs j u a ((List.getElem?_set_ne hj).trans hu) ha

section
variable (env : Surroundings)

theorem runEach_served (tasks : List (Task α)) (w : World) :
    ∃ ds, w.Hands (ds.map Prod.snd) (runEach env tasks w).2 ∧
      Served env.unreached tasks ds (runEach env tasks w).1 := by
  induction tasks generalizing w with
  | nil => exact ⟨[], w.hands_nothing w rfl rfl, served_none env.unreached⟩
  | cons t tasks ih =>
    obtain ⟨first, hfirst, hruns⟩ := run_hands env t w
    obtain ⟨ds, hrest, hserved⟩ := ih (t.run env w).2
    refine ⟨_, ?_, hserved.cons hruns⟩
    have hsnd : ((first.map fun d => (0, d)) ++ behindOne ds).map Prod.snd =
        first ++ ds.map Prod.snd := by
      simp [behindOne, Function.comp_def]
    rw [hsnd]
    exact hfirst.trans hrest

theorem interleave_cons (i : Nat) (turns : List Nat) (tasks : List (Task α)) (w : World) :
    interleave env (i :: turns) tasks w =
      interleave env turns (stepAt env tasks i w).1 (stepAt env tasks i w).2 := rfl

/-- Whatever the turns are, each task runs on what is delivered to it. -/
theorem interleave_served (turns : List Nat) (tasks : List (Task α)) (w : World) :
    ∃ ds, w.Hands (ds.map Prod.snd) (interleave env turns tasks w).2 ∧
      Served env.unreached tasks ds (interleave env turns tasks w).1 := by
  -- what the first step gets comes before what its task gets in all later turns
  induction turns generalizing tasks w with
  | nil => exact runEach_served env tasks w
  | cons i turns ih =>
    cases ht : tasks[i]? with
    | none =>
      have hstay : stepAt env tasks i w = (tasks, w) := by rw [stepAt, ht]
      rw [interleave_cons, hstay]
      exact ih tasks w
    | some t =>
      have hgo : stepAt env tasks i w = (tasks.set i (t.step env w).1, (t.step env w).2) := by
        rw [stepAt, ht]
      obtain ⟨first, hfirst, hstep⟩ := step_hands env t w
      obtain ⟨ds, hrest, hserved⟩ := ih (tasks.set i (t.step env w).1) (t.step env w).2
      rw [interleave_cons, hgo]
      refine ⟨_, ?_, hserved.step ht hstep⟩
      have hsnd : ((first.map fun d => (i, d)) ++ ds).map Prod.snd =
          first ++ ds.map Prod.snd := by
        simp [Function.comp_def]
      rw [hsnd]
      exact hfirst.trans hrest

end

end Task

end MapClient
