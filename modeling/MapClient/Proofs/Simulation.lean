import MapClient.Proofs.Likeness

/-!
# Sessions side by side

Two sessions read other clocks and draw other boundaries. If they take the same
steps on one submitter and the same answers await them, they keep in step: the
requests go out in the same order and are alike, the same is logged but for
times, and every result is alike. That holds of tasks that take turns as well.
-/

set_option autoImplicit false

namespace MapClient

open MapClient.Transport

namespace Transport

variable {r r' : Request}

theorem Request.Like.url_eq (h : r.Like r') : r.url = r'.url := by
  cases h <;> rfl

theorem Request.Like.follow_eq (h : r.Like r') (url : Url) : r.follow url = r'.follow url := by
  cases h <;> rfl

theorem Request.Like.turn_eq (h : r.Like r') (client : Client) (bytes : List UInt8) :
    turn client r bytes = turn client r' bytes := by
  cases h <;> rfl

end Transport

namespace World

structure Alike (w w' : World) : Prop where
  script : w.script = w'.script
  received : List.Forall₂ Request.Like w.received w'.received
  logged : w.logged.map Log.Event.untimed = w'.logged.map Log.Event.untimed

theorem reply_alike (env env' : Surroundings) (hnet : env'.unreached = env.unreached)
    {w w' : World} {r r' : Request} (h : w.Alike w') (hr : r.Like r') :
    (w.reply env r).1 = (w'.reply env' r').1 ∧ (w.reply env r).2.Alike (w'.reply env' r').2 := by
  cases hu : env.unreached r.url with
  | some fault =>
    have hu' : env'.unreached r'.url = some fault := by rw [hnet, ← hr.url_eq, hu]
    rw [reply_unreached env w r fault hu, reply_unreached env' w' r' fault hu']
    exact ⟨rfl, h⟩
  | none =>
    have hu' : env'.unreached r'.url = none := by rw [hnet, ← hr.url_eq, hu]
    rw [reply_reached env w r hu, reply_reached env' w' r' hu', h.script]
    refine ⟨rfl, ?_, .cons hr h.received, h.logged⟩
    exact congrArg (List.drop 1) h.script

end World

namespace Task

variable {α β : Type}

inductive Alike (R : α → α → Prop) : Task α → Task α → Prop
  | done (a a' : α) (h : R a a') : Alike R (.done a) (.done a')
  | now (next next' : Instant → Task α) (h : ∀ t t', Alike R (next t) (next' t')) :
    Alike R (.now next) (.now next')
  | boundary (next next' : String → Task α) (h : ∀ b b', Alike R (next b) (next' b')) :
    Alike R (.boundary next) (.boundary next')
  | log (e e' : Log.Event) (next next' : Task α) (he : e.untimed = e'.untimed)
    (h : Alike R next next') : Alike R (.log e next) (.log e' next')
  | ask (r r' : Request) (next next' : Reply → Task α) (hr : r.Like r')
    (h : ∀ reply, Alike R (next reply) (next' reply)) : Alike R (.ask r next) (.ask r' next')

theorem alike_bind {R : α → α → Prop} {S : β → β → Prop} {t t' : Task α} {f f' : α → Task β}
    (h : Alike R t t') (hf : ∀ a a', R a a' → Alike S (f a) (f' a')) :
    Alike S (t.bind f) (t'.bind f') := by
  induction h with
  | done a a' ha => exact hf a a' ha
  | now next next' _ ih => exact .now _ _ ih
  | boundary next next' _ ih => exact .boundary _ _ ih
  | log e e' next next' he _ ih => exact .log e e' _ _ he ih
  | ask r r' next next' hr _ ih => exact .ask r r' _ _ hr ih

theorem alike_seq {R : α → α → Prop} {S : β → β → Prop} {t t' : Task α} {f f' : α → Task β}
    (h : Alike R t t') (hf : ∀ a a', R a a' → Alike S (f a) (f' a')) :
    Alike S (t >>= f) (t' >>= f') := alike_bind h hf

theorem alike_write (e : Log.Event) : Alike (fun _ _ => True) (write e) (write e) :=
  .log e e _ _ rfl (.done () () trivial)

theorem alike_time : Alike (fun _ _ => True) time time := .now _ _ fun t t' => .done t t' trivial

section
variable (env env' : Surroundings) (hnet : env'.unreached = env.unreached)
  {R : α → α → Prop} {w w' : World}
include hnet

/-- Tasks that are alike are alike after a step, and so are their worlds. -/
theorem step_alike {t t' : Task α} (h : Alike R t t') (hw : w.Alike w') :
    Alike R (t.step env w).1 (t'.step env' w').1 ∧
      (t.step env w).2.Alike (t'.step env' w').2 := by
  cases h with
  | done a a' ha => exact ⟨.done a a' ha, hw⟩
  | now next next' hnext => exact ⟨hnext _ _, hw.script, hw.received, hw.logged⟩
  | boundary next next' hnext => exact ⟨hnext _ _, hw.script, hw.received, hw.logged⟩
  | log e e' next next' he hnext =>
    refine ⟨hnext, hw.script, hw.received, ?_⟩
    exact congrArg₂ List.cons he hw.logged
  | ask r r' next next' hr hnext =>
    obtain ⟨hreply, hafter⟩ := World.reply_alike env env' hnet hw hr
    refine ⟨?_, hafter⟩
    rw [step, step, ← hreply]
    exact hnext _

theorem run_alike {t t' : Task α} (h : Alike R t t') (hw : w.Alike w') :
    R (t.run env w).1 (t'.run env' w').1 ∧ (t.run env w).2.Alike (t'.run env' w').2 := by
  induction h generalizing w w' with
  | done a a' ha => exact ⟨ha, hw⟩
  | now next next' hnext ih =>
    exact ih _ _ (step_alike env env' hnet (.now next next' hnext) hw).2
  | boundary next next' hnext ih =>
    exact ih _ _ (step_alike env env' hnet (.boundary next next' hnext) hw).2
  | log e e' next next' he hnext ih =>
    exact ih (step_alike env env' hnet (.log e e' next next' he hnext) hw).2
  | ask r r' next next' hr hnext ih =>
    obtain ⟨hreply, hafter⟩ := World.reply_alike env env' hnet hw hr
    rw [run, run, ← hreply]
    exact ih _ hafter

theorem runEach_alike {tasks tasks' : List (Task α)} (h : List.Forall₂ (Alike R) tasks tasks')
    (hw : w.Alike w') :
    List.Forall₂ R (runEach env tasks w).1 (runEach env' tasks' w').1 ∧
      (runEach env tasks w).2.Alike (runEach env' tasks' w').2 := by
  induction h generalizing w w' with
  | nil => exact ⟨.nil, hw⟩
  | cons ht _ ih =>
    obtain ⟨ha, hafter⟩ := run_alike env env' hnet ht hw
    obtain ⟨has, hend⟩ := ih hafter
    exact ⟨.cons ha has, hend⟩

omit hnet in
theorem stepAt_later (t : Task α) (tasks : List (Task α)) (i : Nat) (w : World) :
    stepAt env (t :: tasks) (i + 1) w =
      (t :: (stepAt env tasks i w).1, (stepAt env tasks i w).2) := by
  rw [stepAt, stepAt, List.getElem?_cons_succ]
  cases tasks[i]? <;> rfl

theorem stepAt_alike {tasks tasks' : List (Task α)} (h : List.Forall₂ (Alike R) tasks tasks')
    (i : Nat) (hw : w.Alike w') :
    List.Forall₂ (Alike R) (stepAt env tasks i w).1 (stepAt env' tasks' i w').1 ∧
      (stepAt env tasks i w).2.Alike (stepAt env' tasks' i w').2 := by
  induction h generalizing i with
  | nil => exact ⟨.nil, hw⟩
  | cons ht hrest ih =>
    cases i with
    | zero =>
      obtain ⟨hstep, hafter⟩ := step_alike env env' hnet ht hw
      exact ⟨.cons hstep hrest, hafter⟩
    | succ i =>
      obtain ⟨hstep, hafter⟩ := ih i
      rw [stepAt_later, stepAt_later]
      exact ⟨.cons ht hstep, hafter⟩

/-- Tasks that are alike and take the same turns come to related values. -/
theorem interleave_alike (turns : List Nat) {tasks tasks' : List (Task α)}
    (h : List.Forall₂ (Alike R) tasks tasks') (hw : w.Alike w') :
    List.Forall₂ R (interleave env turns tasks w).1 (interleave env' turns tasks' w').1 ∧
      (interleave env turns tasks w).2.Alike (interleave env' turns tasks' w').2 := by
  induction turns generalizing tasks tasks' w w' with
  | nil => exact runEach_alike env env' hnet h hw
  | cons i turns ih =>
    obtain ⟨hstep, hafter⟩ := stepAt_alike env env' hnet h i hw
    rw [interleave_cons, interleave_cons]
    exact ih hstep hafter

end

end Task

theorem Transport.exchange_alike (client : Client) (redirects : Nat) {r r' : Request}
    (h : r.Like r') :
    Task.Alike Eq (exchange client redirects r) (exchange client redirects r') := by
  -- only the first request can have a form, so those that follow are the same
  induction redirects using Nat.strong_induction_on generalizing r r' with
  | _ redirects ih =>
    rw [exchange_ask, exchange_ask]
    refine .ask r r' _ _ h fun reply => ?_
    cases reply with
    | error fault =>
      rw [h.url_eq]
      exact .done _ _ rfl
    | ok bytes =>
      dsimp only
      rw [← h.turn_eq]
      split
      · exact .done _ _ rfl
      · cases redirects with
        | zero =>
          rw [h.url_eq]
          exact .done _ _ rfl
        | succ redirects =>
          dsimp only
          split
          · rw [h.follow_eq]
            exact ih redirects (Nat.lt_succ_self redirects) (.same _)
          · exact .done _ _ rfl

namespace Submitter

variable (s : Submitter) (o : Operation)

theorem payload_alike : Task.Alike
    (fun p p' => ∃ boundary boundary', p = o.payload boundary ∧ p' = o.payload boundary')
    (payload o) (payload o) := by
  cases o with
  | fetch path => exact .done _ _ ⟨"", "", rfl, rfl⟩
  | submit record => exact .boundary _ _ fun b b' => .done _ _ ⟨b, b', rfl, rfl⟩

/-- The exchange for a text is the same whatever the boundary of the form is. -/
theorem sending_alike (text boundary boundary' : String) : Task.Alike Eq
    (Transport.perform s.client (prepare s.client text (o.payload boundary)))
    (Transport.perform s.client (prepare s.client text (o.payload boundary'))) := by
  rw [prepare_reform s.client text boundary boundary' o]
  cases hp : prepare s.client text (o.payload boundary) with
  | error failure => exact .done _ _ rfl
  | ok request =>
    obtain ⟨full, -, -, -, -, hrequest⟩ := prepare_ok _ _ _ _ hp
    have hpayload : request.payload = o.payload boundary := by rw [hrequest]
    exact exchange_alike s.client redirectLimit
      (request.like_reform o boundary boundary' (.inr hpayload))

theorem perform_alike : Task.Alike Outcome.sameButTimes (s.perform o) (s.perform o) := by
  unfold perform
  refine Task.alike_seq (Task.alike_write _) fun _ _ _ => ?_
  refine Task.alike_seq (payload_alike o) ?_
  rintro p p' ⟨boundary, boundary', rfl, rfl⟩
  refine Task.alike_seq Task.alike_time fun t t' _ => ?_
  refine Task.alike_seq (s.sending_alike o _ boundary boundary') ?_
  rintro result _ rfl
  refine Task.alike_seq (Task.alike_write _) fun _ _ _ => ?_
  refine Task.alike_seq Task.alike_time fun t t' _ => ?_
  exact .done _ _ ⟨rfl, rfl⟩

end Submitter

namespace Session

theorem deliver_alike (reporter : Reporter) {outcome outcome' : Outcome}
    (h : outcome.sameButTimes outcome') :
    Task.Alike Finished.Like (deliver reporter outcome) (deliver reporter outcome') := by
  have hfinish := reporter.finish_like outcome outcome' h
  cases reporter with
  | collect => exact .done _ _ hfinish
  | panic => exact .done _ _ hfinish
  | log => exact .log _ _ _ _ (outcome.report_untimed outcome' h) (.done _ _ hfinish)

theorem task_alike (s : Submitter) (d : Dispatch) :
    Task.Alike Finished.Like (task s d) (task s d) := by
  unfold task
  split
  · exact .done _ _ ⟨rfl, .nil⟩
  · exact Task.alike_bind (s.perform_alike d.operation) fun _ _ => deliver_alike d.reporter

inductive Result.Alike : Result → Result → Prop
  | alone (r r' : Result) (h : r.Like r') : Alike r r'
  | together (before : Nat) (fs fs' : List Finished) (h : List.Forall₂ Finished.Like fs fs') :
    Alike (.together before fs) (.together before fs')

structure Answer.Alike (a a' : Answer) : Prop where
  result : a.result.Alike a'.result
  requests : List.Forall₂ Request.Like a.requests a'.requests
  events : a.events.map Log.Event.untimed = a'.events.map Log.Event.untimed

section
variable (env env' : Surroundings) (hnet : env'.unreached = env.unreached) (s : Submitter)
  {w w' : World}
include hnet

theorem perform_alike (step : Step) (hw : w.Alike w') :
    (perform env s step w).1.Alike (perform env' s step w').1 ∧
      (perform env s step w).2.Alike (perform env' s step w').2 := by
  cases step with
  | dispatch d =>
    obtain ⟨hf, hafter⟩ := Task.run_alike env env' hnet (task_alike s d) hw
    exact ⟨.alone _ _ (.finished _ _ hf), hafter⟩
  | await o =>
    obtain ⟨houtcome, hafter⟩ := Task.run_alike env env' hnet (s.perform_alike o) hw
    exact ⟨.alone _ _ (.awaited _ _ houtcome), hafter⟩
  | together ds turns =>
    have htasks : List.Forall₂ (Task.Alike Finished.Like) (ds.map (task s)) (ds.map (task s)) := by
      rw [List.forall₂_same]
      intro t ht
      obtain ⟨d, -, rfl⟩ := List.mem_map.mp ht
      exact task_alike s d
    obtain ⟨hfs, hafter⟩ := Task.interleave_alike env env' hnet turns htasks hw
    refine ⟨?_, hafter⟩
    rw [perform, perform, hw.received.length_eq]
    exact .together _ _ _ hfs
  | base => exact ⟨.alone _ _ (.text _), hw⟩
  | endpoint path => exact ⟨.alone _ _ (.text _), hw⟩

/-- A step answers alike and leaves worlds in which the next one does. -/
theorem answer_paired (step : Step) (hscript : w.script = w'.script) :
    (answer env s step w).1.Alike (answer env' s step w').1 ∧
      (answer env s step w).2.script = (answer env' s step w').2.script := by
  have hfresh : (fresh w).Alike (fresh w') := ⟨hscript, .nil, rfl⟩
  obtain ⟨hresult, hafter⟩ := perform_alike env env' hnet s step hfresh
  refine ⟨⟨hresult, List.rel_reverse hafter.received, ?_⟩, hafter.script⟩
  rw [answer, answer, List.map_reverse, List.map_reverse]
  exact congrArg List.reverse hafter.logged

theorem run_paired (steps : List Step) (hscript : w.script = w'.script) :
    List.Forall₂ Answer.Alike (run env s steps w) (run env' s steps w') := by
  induction steps generalizing w w' with
  | nil => exact .nil
  | cons step steps ih =>
    obtain ⟨hanswer, hnext⟩ := answer_paired env env' hnet s step hscript
    exact .cons hanswer (ih hnext)

end

end Session

end MapClient
