import MapClient.Proofs.LogLines
import MapClient.Proofs.Playing

/-!
# Which events are logged

What a task can log is told by the task alone, whatever the time is, which
boundaries there are and how it is answered. Tasks that take turns log what they
can log, and a step of a session logs for each of its operations what is done to
the URL and what came of it, besides the records of its reporters.
-/

set_option autoImplicit false

namespace MapClient

open MapClient.Transport

namespace Task

variable {α β : Type}

inductive Logs (unreached : Network) : Task α → Log.Event → Prop
  | here (event : Log.Event) (next : Task α) : Logs unreached (.log event next) event
  | later (event : Log.Event) (next : Task α) (e : Log.Event) (h : Logs unreached next e) :
      Logs unreached (.log event next) e
  | now (next : Instant → Task α) (t : Instant) (e : Log.Event)
      (h : Logs unreached (next t) e) : Logs unreached (.now next) e
  | boundary (next : String → Task α) (b : String) (e : Log.Event)
      (h : Logs unreached (next b) e) : Logs unreached (.boundary next) e
  | lost (request : Request) (next : Reply → Task α) (fault : Http.ConnectFault)
      (e : Log.Event) (hu : unreached request.url = some fault)
      (h : Logs unreached (next (.error fault)) e) : Logs unreached (.ask request next) e
  | answered (request : Request) (next : Reply → Task α) (bytes : List UInt8) (e : Log.Event)
      (hu : unreached request.url = none) (h : Logs unreached (next (.ok bytes)) e) :
      Logs unreached (.ask request next) e

section
variable (unreached : Network)

theorem logs_bind (t : Task α) (f : α → Task β) (e : Log.Event)
    (h : Logs unreached (t.bind f) e) :
    Logs unreached t e ∨ ∃ ds a, Runs unreached t ds a ∧ Logs unreached (f a) e := by
  induction t with
  | done a => exact .inr ⟨[], a, .done a, h⟩
  | now next ih =>
    cases h with
    | now _ t e h =>
      rcases ih t h with hfirst | ⟨ds, a, hruns, hrest⟩
      · exact .inl (.now next t e hfirst)
      · exact .inr ⟨ds, a, .now next t ds a hruns, hrest⟩
  | boundary next ih =>
    cases h with
    | boundary _ b e h =>
      rcases ih b h with hfirst | ⟨ds, a, hruns, hrest⟩
      · exact .inl (.boundary next b e hfirst)
      · exact .inr ⟨ds, a, .boundary next b ds a hruns, hrest⟩
  | log event next ih =>
    cases h with
    | here => exact .inl (.here _ _)
    | later _ _ e h =>
      rcases ih h with hfirst | ⟨ds, a, hruns, hrest⟩
      · exact .inl (.later event next e hfirst)
      · exact .inr ⟨ds, a, .log event next ds a hruns, hrest⟩
  | ask request next ih =>
    cases h with
    | lost _ _ fault e hu h =>
      rcases ih _ h with hfirst | ⟨ds, a, hruns, hrest⟩
      · exact .inl (.lost request next fault e hu hfirst)
      · exact .inr ⟨ds, a, .lost request next fault ds a hu hruns, hrest⟩
    | answered _ _ bytes e hu h =>
      rcases ih _ h with hfirst | ⟨ds, a, hruns, hrest⟩
      · exact .inl (.answered request next bytes e hu hfirst)
      · exact .inr ⟨_, a, .answered request next bytes ds a hu hruns, hrest⟩

theorem logs_seq (t : Task α) (f : α → Task β) (e : Log.Event)
    (h : Logs unreached (t >>= f) e) :
    Logs unreached t e ∨ ∃ ds a, Runs unreached t ds a ∧ Logs unreached (f a) e :=
  logs_bind unreached t f e h

theorem logs_done (a : α) (e : Log.Event) : ¬Logs unreached (.done a) e := fun h => by cases h

theorem logs_write (event e : Log.Event) (h : Logs unreached (write event) e) : e = event := by
  cases h with
  | here => rfl
  | later _ _ _ h => exact absurd h (logs_done unreached () e)

theorem logs_time (e : Log.Event) : ¬Logs unreached time e := fun h => by
  cases h with
  | now _ t _ h => exact logs_done unreached t e h

theorem logs_payload (o : Operation) (e : Log.Event) :
    ¬Logs unreached (Submitter.payload o) e := fun h => by
  cases o with
  | fetch path => exact logs_done unreached _ e h
  | submit record =>
    cases h with
    | boundary _ b _ h => exact logs_done unreached _ e h

theorem logs_exchange (client : Client) (redirects : Nat) (request : Request) (e : Log.Event) :
    ¬Logs unreached (exchange client redirects request) e := by
  induction redirects generalizing request with
  | zero =>
    rw [exchange_ask]
    intro h
    cases h with
    | lost _ _ fault _ hu h => exact logs_done unreached _ e h
    | answered _ _ bytes _ hu h =>
      dsimp only at h
      split at h
      · exact logs_done unreached _ e h
      · exact logs_done unreached _ e h
  | succ redirects ih =>
    rw [exchange_ask]
    intro h
    cases h with
    | lost _ _ fault _ hu h => exact logs_done unreached _ e h
    | answered _ _ bytes _ hu h =>
      dsimp only at h
      split at h
      · exact logs_done unreached _ e h
      · split at h
        · exact ih _ h
        · exact logs_done unreached _ e h

theorem logs_transport (client : Client) (prepared : Except Failure Request) (e : Log.Event) :
    ¬Logs unreached (Transport.perform client prepared) e := by
  cases prepared with
  | error failure => exact logs_done unreached _ e
  | ok request => exact logs_exchange unreached client redirectLimit request e

theorem logs_perform (s : Submitter) (o : Operation) (e : Log.Event)
    (h : Logs unreached (s.perform o) e) :
    e = o.beginning (s.endpoint o.path) ∨
      ∃ boundary script, e = o.conclusion (s.endpoint o.path)
        (endingOf (s.course unreached boundary o script).result) := by
  simp only [Submitter.perform] at h
  rcases logs_seq unreached _ _ e h with hwrite | ⟨-, _, -, hprepare⟩
  · exact .inl (logs_write unreached _ e hwrite)
  rcases logs_seq unreached _ _ e hprepare with hpayload | ⟨drawn, _, hpayload, hdispatch⟩
  · exact absurd hpayload (logs_payload unreached o e)
  rcases logs_seq unreached _ _ e hdispatch with htime | ⟨-, _, -, hsend⟩
  · exact absurd htime (logs_time unreached e)
  rcases logs_seq unreached _ _ e hsend with hask | ⟨ds, result, hask, hconclude⟩
  · exact absurd hask (logs_transport unreached s.client _ e)
  obtain ⟨-, boundary, rfl⟩ := runs_payload unreached o _ drawn hpayload
  have hcourse := runs_sending unreached s o boundary result ds hask
  rcases logs_seq unreached _ _ e hconclude with hwrite | ⟨-, _, -, hcomplete⟩
  · refine .inr ⟨boundary, ds.map (·.answer), ?_⟩
    rw [hcourse]
    exact logs_write unreached _ e hwrite
  rcases logs_seq unreached _ _ e hcomplete with htime | ⟨-, _, -, hreturn⟩
  · exact absurd htime (logs_time unreached e)
  · exact absurd hreturn (logs_done unreached _ e)

end

section
variable (env : Surroundings)

/-- What is logged after a step or can be logged then was logged before it or could
be. -/
theorem step_logs (t : Task α) (w : World) (e : Log.Event)
    (h : e ∈ (t.step env w).2.logged ∨ Logs env.unreached (t.step env w).1 e) :
    e ∈ w.logged ∨ Logs env.unreached t e := by
  cases t with
  | done a => exact h
  | now next => exact h.imp_right (.now next _ e)
  | boundary next => exact h.imp_right (.boundary next _ e)
  | log event next =>
    rcases h with hlogged | hlogs
    · rcases List.mem_cons.mp hlogged with rfl | hbefore
      · exact .inr (.here e next)
      · exact .inl hbefore
    · exact .inr (.later event next e hlogs)
  | ask request next =>
    cases hu : env.unreached request.url with
    | some fault =>
      rw [step, World.reply_unreached env w request fault hu] at h
      exact h.imp_right (.lost request next fault e hu)
    | none =>
      rw [step, World.reply_reached env w request hu] at h
      exact h.imp_right (.answered request next _ e hu)

theorem run_logs (t : Task α) (w : World) (e : Log.Event) (h : e ∈ (t.run env w).2.logged) :
    e ∈ w.logged ∨ Logs env.unreached t e := by
  induction t generalizing w with
  | done a => exact .inl h
  | now next ih => exact step_logs env (.now next) w e (ih _ _ h)
  | boundary next ih => exact step_logs env (.boundary next) w e (ih _ _ h)
  | log event next ih => exact step_logs env (.log event next) w e (ih _ h)
  | ask request next ih => exact step_logs env (.ask request next) w e (ih _ _ h)

def SomeLogs (unreached : Network) (tasks : List (Task α)) (e : Log.Event) : Prop :=
  ∃ t ∈ tasks, Logs unreached t e

theorem runEach_logs (tasks : List (Task α)) (w : World) (e : Log.Event)
    (h : e ∈ (runEach env tasks w).2.logged) :
    e ∈ w.logged ∨ SomeLogs env.unreached tasks e := by
  induction tasks generalizing w with
  | nil => exact .inl h
  | cons t tasks ih =>
    rcases ih (t.run env w).2 h with hlogged | ⟨u, hu, hlogs⟩
    · exact (run_logs env t w e hlogged).imp_right fun hlogs =>
        ⟨t, List.mem_cons_self, hlogs⟩
    · exact .inr ⟨u, List.mem_cons_of_mem t hu, hlogs⟩

theorem stepAt_logs (tasks : List (Task α)) (i : Nat) (w : World) (e : Log.Event)
    (h : e ∈ (stepAt env tasks i w).2.logged ∨
      SomeLogs env.unreached (stepAt env tasks i w).1 e) :
    e ∈ w.logged ∨ SomeLogs env.unreached tasks e := by
  cases ht : tasks[i]? with
  | none =>
    rw [stepAt, ht] at h
    exact h
  | some t =>
    have hmem : t ∈ tasks := List.mem_of_getElem? ht
    have hthis (h : e ∈ (t.step env w).2.logged ∨ Logs env.unreached (t.step env w).1 e) :
        e ∈ w.logged ∨ SomeLogs env.unreached tasks e :=
      (step_logs env t w e h).imp_right fun hlogs => ⟨t, hmem, hlogs⟩
    rw [stepAt, ht] at h
    rcases h with hlogged | ⟨u, hu, hlogs⟩
    · exact hthis (.inl hlogged)
    · rcases List.mem_or_eq_of_mem_set hu with hother | rfl
      · exact .inr ⟨u, hother, hlogs⟩
      · exact hthis (.inr hlogs)

/-- Tasks that take turns log what they can log by themselves. -/
theorem interleave_logs (turns : List Nat) (tasks : List (Task α)) (w : World) (e : Log.Event)
    (h : e ∈ (interleave env turns tasks w).2.logged) :
    e ∈ w.logged ∨ SomeLogs env.unreached tasks e := by
  induction turns generalizing tasks w with
  | nil => exact runEach_logs env tasks w e h
  | cons i turns ih =>
    rw [interleave_cons] at h
    exact stepAt_logs env tasks i w e (ih _ _ h)

end

end Task

namespace Session

def Step.operations : Step → List Operation
  | .dispatch d => [d.operation]
  | .await o => [o]
  | .together ds _ => ds.map (·.operation)
  | .base | .endpoint _ => []

section
variable (env : Surroundings) (s : Submitter)

theorem task_logs (unreached : Network) (d : Dispatch) (e : Log.Event)
    (h : Task.Logs unreached (task s d) e) :
    Task.Logs unreached (s.perform d.operation) e ∨ e.target = Outcome.reportTarget := by
  obtain ⟨o, reporter, calledOff⟩ := d
  cases calledOff with
  | true => exact absurd h (Task.logs_done unreached _ e)
  | false =>
    refine (Task.logs_bind unreached _ _ e h).imp_right ?_
    rintro ⟨-, outcome, -, hdeliver⟩
    cases reporter with
    | collect => exact absurd hdeliver (Task.logs_done unreached _ e)
    | panic => exact absurd hdeliver (Task.logs_done unreached _ e)
    | log =>
      cases hdeliver with
      | here => exact outcome.report_target
      | later _ _ _ hdone => exact absurd hdone (Task.logs_done unreached _ e)

theorem perform_logs (step : Step) (w : World) (e : Log.Event)
    (h : e ∈ (perform env s step w).2.logged) :
    e ∈ w.logged ∨ (∃ o ∈ step.operations, Task.Logs env.unreached (s.perform o) e) ∨
      e.target = Outcome.reportTarget := by
  cases step with
  | dispatch d =>
    refine (Task.run_logs env (task s d) w e h).imp_right fun hlogs => ?_
    exact (task_logs s env.unreached d e hlogs).imp_left fun hown =>
      ⟨d.operation, List.mem_singleton_self _, hown⟩
  | await o =>
    refine (Task.run_logs env (s.perform o) w e h).imp_right fun hlogs => ?_
    exact .inl ⟨o, List.mem_singleton_self _, hlogs⟩
  | together ds turns =>
    refine (Task.interleave_logs env turns (ds.map (task s)) w e h).imp_right ?_
    rintro ⟨t, ht, hlogs⟩
    obtain ⟨d, hd, rfl⟩ := List.mem_map.mp ht
    exact (task_logs s env.unreached d e hlogs).imp_left fun hown =>
      ⟨d.operation, List.mem_map_of_mem hd, hown⟩
  | base => exact .inl h
  | endpoint path => exact .inl h

/-- What a step logs outside the records of its reporters, an operation of the
step logs. -/
theorem answer_logs (step : Step) (w : World) (e : Log.Event)
    (h : e ∈ (answer env s step w).1.events) (htarget : e.target = Operation.logTarget) :
    ∃ o ∈ step.operations, Task.Logs env.unreached (s.perform o) e := by
  rcases perform_logs env s step _ e (List.mem_reverse.mp h) with hbefore | hown | hreport
  · cases hbefore
  · exact hown
  · rw [htarget] at hreport
    exact absurd hreport (by decide)

end

end Session

end MapClient
