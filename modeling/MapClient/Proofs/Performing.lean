import MapClient.Proofs.Exchange
import MapClient.Session
import Mathlib.Tactic.SplitIfs

/-!
# What an operation comes to

Performing an operation draws a boundary for its form, reads the clock twice
and logs two events around one exchange. A step of a session shows what of this
fell into the step.
-/

set_option autoImplicit false

namespace MapClient

open MapClient.Transport

def Surroundings.still : Surroundings := ⟨fun _ => ⟨0, 0⟩, fun _ => "x", fun _ => none⟩

namespace Operation

def payload (boundary : String) : Operation → Option Payload
  | .fetch _ => none
  | .submit record => some ⟨Form.contentType boundary, Form.encode boundary record.fields⟩

def draws : Operation → Nat
  | .fetch _ => 0
  | .submit _ => 1

end Operation

namespace Submitter

theorem payload_run (env : Surroundings) (o : Operation) (w : World) :
    (payload o).run env w =
      (o.payload (env.boundaries w.drawn), { w with drawn := w.drawn + o.draws }) := by
  cases o <;> rfl

def course (s : Submitter) (unreached : Network) (boundary : String) (o : Operation)
    (script : Script) : Course :=
  match prepare s.client (s.endpoint o.path) (o.payload boundary) with
  | .error failure => ⟨[], .error failure⟩
  | .ok request => Transport.course s.client unreached redirectLimit request script

def courseIn (s : Submitter) (env : Surroundings) (o : Operation) (w : World) : Course :=
  s.course env.unreached (env.boundaries w.drawn) o w.script

def outcomeIn (s : Submitter) (env : Surroundings) (o : Operation) (w : World) : Outcome where
  url := s.endpoint o.path
  ending := endingOf (s.courseIn env o w).result
  dispatchedAt := env.clock w.readings
  completedAt := env.clock (w.readings + 1)

def eventsIn (s : Submitter) (env : Surroundings) (o : Operation) (w : World) : List Log.Event :=
  [o.beginning (s.endpoint o.path),
    o.conclusion (s.endpoint o.path) (endingOf (s.courseIn env o w).result)]

def worldAfter (s : Submitter) (env : Surroundings) (o : Operation) (w : World) : World where
  script := w.script.drop (s.courseIn env o w).sent.length
  received := (s.courseIn env o w).sent.reverse ++ w.received
  logged := (s.eventsIn env o w).reverse ++ w.logged
  readings := w.readings + 2
  drawn := w.drawn + o.draws

theorem transport_run (client : Client) (env : Surroundings) (prepared : Except Failure Request)
    (w : World) :
    (Transport.perform client prepared).run env w =
      match prepared with
      | .error failure => (.error failure, w)
      | .ok request =>
        ((Transport.course client env.unreached redirectLimit request w.script).result,
          w.after (Transport.course client env.unreached redirectLimit request w.script).sent) := by
  cases prepared with
  | error failure => rfl
  | ok request => exact exchange_run client env redirectLimit request w

/-- What performing an operation comes to. The exchange stands between the
readings of the clock and between the events, and touches neither. -/
theorem perform_run (s : Submitter) (env : Surroundings) (o : Operation) (w : World) :
    (s.perform o).run env w = (s.outcomeIn env o w, s.worldAfter env o w) := by
  simp only [perform, Task.run_seq, Task.run_write, payload_run, Task.run_time, transport_run,
    Task.run_pure, outcomeIn, worldAfter, eventsIn, courseIn, course]
  cases prepare s.client (s.endpoint o.path) (o.payload (env.boundaries w.drawn)) with
  | error failure => rfl
  | ok request => rfl

theorem prepare_ok (client : Client) (text : String) (payload : Option Payload)
    (request : Request) (h : prepare client text payload = .ok request) :
    ∃ full, Url.parse text = .ok full ∧ full.host? ≠ none ∧
      (takeCredentials full).1.isHttp = true ∧ (takeCredentials full).1.isTarget = true ∧
      request = ⟨(takeCredentials full).1, client.agent, (takeCredentials full).2, none,
        payload⟩ := by
  unfold prepare at h
  cases hp : Url.parse text with
  | error fault => simp [hp] at h
  | ok full =>
    simp only [hp] at h
    split_ifs at h with hhost hhttp htarget
    exact ⟨full, rfl, hhost, by simpa using hhttp, by simpa using htarget,
      (Except.ok.inj h).symm⟩

theorem courseIn_ok (s : Submitter) (env : Surroundings) (o : Operation) (w : World)
    (request : Request)
    (h : prepare s.client (s.endpoint o.path) (o.payload (env.boundaries w.drawn)) = .ok request) :
    s.courseIn env o w =
      Transport.course s.client env.unreached redirectLimit request w.script := by
  rw [courseIn, course, h]

/-- An operation either cannot be requested or takes the course of its first
request. -/
theorem courseIn_cases (s : Submitter) (env : Surroundings) (o : Operation) (w : World) :
    (∃ failure, s.courseIn env o w = ⟨[], .error failure⟩) ∨
      ∃ request,
        prepare s.client (s.endpoint o.path) (o.payload (env.boundaries w.drawn)) = .ok request ∧
        s.courseIn env o w =
          Transport.course s.client env.unreached redirectLimit request w.script := by
  cases hp : prepare s.client (s.endpoint o.path) (o.payload (env.boundaries w.drawn)) with
  | error failure => exact .inl ⟨failure, by rw [courseIn, course, hp]⟩
  | ok request => exact .inr ⟨request, rfl, s.courseIn_ok env o w request hp⟩

/-- The first request of an operation goes to its endpoint and holds its form,
and no other request holds a form. -/
theorem sent_cases (s : Submitter) (env : Surroundings) (o : Operation) (w : World) :
    (s.courseIn env o w).sent = [] ∨
      ∃ full first later, (s.courseIn env o w).sent = first :: later ∧
        Url.parse (s.endpoint o.path) = .ok full ∧ first.url = (takeCredentials full).1 ∧
        first.payload = o.payload (env.boundaries w.drawn) ∧
        ∀ r ∈ later, r.payload = none := by
  rcases s.courseIn_cases env o w with ⟨failure, hcourse⟩ | ⟨request, hp, hcourse⟩
  · exact .inl (by rw [hcourse])
  · obtain ⟨full, hparse, -, -, -, hrequest⟩ := prepare_ok _ _ _ _ hp
    rw [hcourse]
    rcases course_sent s.client env.unreached redirectLimit request w.script with
      hnone | ⟨later, hsent, hplain⟩
    · exact .inl hnone
    · exact .inr ⟨full, request, later, hsent, hparse, by rw [hrequest], by rw [hrequest],
        hplain⟩

theorem course_forms (s : Submitter) (env : Surroundings) (o : Operation) (w : World) :
    ∀ r ∈ (s.courseIn env o w).sent,
      r.payload = none ∨ r.payload = o.payload (env.boundaries w.drawn) := by
  intro r hr
  rcases s.sent_cases env o w with hnone | ⟨full, first, later, hsent, -, -, hform, hplain⟩
  · simp [hnone] at hr
  · rw [hsent] at hr
    rcases List.mem_cons.mp hr with rfl | hr
    · exact .inr hform
    · exact .inl (hplain r hr)

theorem prepare_reform (client : Client) (text boundary other : String) (o : Operation) :
    prepare client text (o.payload other) =
      (prepare client text (o.payload boundary)).map (Request.reform (o.payload other)) := by
  unfold prepare
  cases hp : Url.parse text with
  | error fault => rfl
  | ok full =>
    dsimp only
    split_ifs
    · rfl
    · rfl
    · rfl
    · cases o <;> rfl

/-- The boundary shows in the form and nowhere else. -/
theorem course_boundary (s : Submitter) (unreached : Network) (boundary other : String)
    (o : Operation) (script : Script) :
    s.course unreached other o script =
      (s.course unreached boundary o script).reform (o.payload other) := by
  rw [course, course, prepare_reform s.client (s.endpoint o.path) boundary other o]
  cases hp : prepare s.client (s.endpoint o.path) (o.payload boundary) with
  | error failure => rfl
  | ok request =>
    obtain ⟨full, -, -, -, -, hr⟩ := prepare_ok _ _ _ _ hp
    have hsome : (o.payload other).isSome = request.payload.isSome := by
      rw [hr]
      cases o <;> rfl
    exact course_reform s.client unreached redirectLimit request (o.payload other) script hsome

end Submitter

namespace Reporter

def finish : Reporter → Outcome → Finished
  | .collect, outcome => ⟨.ok, [outcome]⟩
  | .log, _ => ⟨.ok, []⟩
  | .panic, _ => ⟨.panic, []⟩

def events : Reporter → Outcome → List Log.Event
  | .log, outcome => [outcome.report]
  | _, _ => []

end Reporter

namespace Session

theorem deliver_run (env : Surroundings) (reporter : Reporter) (outcome : Outcome) (w : World) :
    (deliver reporter outcome).run env w =
      (reporter.finish outcome,
        { w with logged := (reporter.events outcome).reverse ++ w.logged }) := by
  cases reporter <;> rfl

def fresh (w : World) : World := { w with received := [], logged := [] }

/-- What is left of the script after an operation. -/
theorem script_left (env : Surroundings) (s : Submitter) (o : Operation) (w : World) :
    (s.worldAfter env o (fresh w)).script =
      w.script.drop (s.courseIn env o w).sent.length := rfl

theorem answer_await (env : Surroundings) (s : Submitter) (o : Operation) (w : World) :
    answer env s (.await o) w =
      (⟨.awaited (s.outcomeIn env o w), (s.courseIn env o w).sent, s.eventsIn env o w⟩,
        s.worldAfter env o (fresh w)) := by
  simp only [answer, perform, Submitter.perform_run, Submitter.worldAfter, fresh]
  simp only [List.append_nil, List.reverse_reverse]
  rfl

theorem answer_dispatch (env : Surroundings) (s : Submitter) (o : Operation)
    (reporter : Reporter) (w : World) :
    answer env s (.dispatch ⟨o, reporter, false⟩) w =
      (⟨.finished (reporter.finish (s.outcomeIn env o w)), (s.courseIn env o w).sent,
          s.eventsIn env o w ++ reporter.events (s.outcomeIn env o w)⟩,
        { s.worldAfter env o (fresh w) with
          logged := (s.eventsIn env o w ++ reporter.events (s.outcomeIn env o w)).reverse }) := by
  simp only [answer, perform, task, Bool.false_eq_true, if_false, Task.run_bind,
    Submitter.perform_run, deliver_run, Submitter.worldAfter, fresh]
  simp only [List.reverse_append, List.reverse_reverse, List.append_nil]
  rfl

theorem answer_called_off (env : Surroundings) (s : Submitter) (o : Operation)
    (reporter : Reporter) (w : World) :
    answer env s (.dispatch ⟨o, reporter, true⟩) w =
      (⟨.finished ⟨.cancelled, []⟩, [], []⟩, fresh w) := rfl

end Session

/- A course is told apart by the lemmas about it. Unfolding one would read a URL. -/
attribute [irreducible] Submitter.courseIn

end MapClient
