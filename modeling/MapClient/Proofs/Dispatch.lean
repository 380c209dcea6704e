import MapClient.Proofs.Performing

/-!
# Dispatched operations

A dispatched operation runs as a task of its own, and whoever awaits the same
operation sees the same course. The clock and the boundaries are not shared: an
outcome is compared without its times, and a request with its form written
between the other boundaries.
-/

set_option autoImplicit false

namespace MapClient

open MapClient.Transport

def Outcome.sameButTimes (a b : Outcome) : Prop := a.url = b.url ∧ a.ending = b.ending

namespace Submitter

/-- The course of an operation does not depend on the clock, and on the
boundaries only in its form. -/
theorem course_elsewhere (s : Submitter) (env env' : Surroundings) (o : Operation)
    (w w' : World) (network : env'.unreached = env.unreached) (script : w'.script = w.script) :
    s.courseIn env' o w' = (s.courseIn env o w).reform (o.payload (env'.boundaries w'.drawn)) := by
  rw [courseIn, courseIn, network, script]
  exact course_boundary s env.unreached (env.boundaries w.drawn) _ o w.script

theorem outcome_elsewhere (s : Submitter) (env env' : Surroundings) (o : Operation)
    (w w' : World) (network : env'.unreached = env.unreached) (script : w'.script = w.script) :
    (s.outcomeIn env' o w').sameButTimes (s.outcomeIn env o w) := by
  refine ⟨rfl, ?_⟩
  rw [outcomeIn, outcomeIn, course_elsewhere s env env' o w w' network script]
  rfl

end Submitter

namespace Session

/-- A dispatched operation comes to one outcome, which is the one that awaiting
the operation returns in any surroundings with the same network and script. What
the reporter does with it changes nothing about what was sent, and a task that
is called off before it begins does nothing at all. -/
theorem dispatched_as_awaited (client : Client) (base : String) (o : Operation)
    (env : Surroundings) (w : World) (clock : Nat → Instant) (boundaries : Nat → String)
    (received : List Request) (logged : List Log.Event) (readings drawn : Nat) :
    let s := Submitter.ofBase client base
    let awaited := answer ⟨clock, boundaries, env.unreached⟩ s (.await o)
      ⟨w.script, received, logged, readings, drawn⟩
    let dispatched := fun reporter => answer env s (.dispatch ⟨o, reporter, false⟩) w
    let calledOff := fun reporter => answer env s (.dispatch ⟨o, reporter, true⟩) w
    (∃ kept outcome : Outcome,
      (dispatched .collect).1.result = .finished ⟨.ok, [kept]⟩ ∧
      kept.url = s.endpoint o.path ∧
      awaited.1.result = .awaited outcome ∧
      outcome.sameButTimes kept) ∧
    (dispatched .log).1.result = .finished ⟨.ok, []⟩ ∧
    (dispatched .panic).1.result = .finished ⟨.panic, []⟩ ∧
    (∀ reporter,
      (∀ r ∈ (dispatched reporter).1.requests,
        r.payload = none ∨ r.payload = o.payload (env.boundaries w.drawn)) ∧
      awaited.1.requests =
        (dispatched reporter).1.requests.map (Request.reform (o.payload (boundaries drawn))) ∧
      awaited.2.script = (dispatched reporter).2.script) ∧
    (∀ reporter, calledOff reporter =
      (⟨.finished ⟨.cancelled, []⟩, [], []⟩, { w with received := [], logged := [] })) := by
  intro s
  have hcourse := s.course_elsewhere env ⟨clock, boundaries, env.unreached⟩ o w
    ⟨w.script, received, logged, readings, drawn⟩ rfl rfl
  have houtcome := s.outcome_elsewhere env ⟨clock, boundaries, env.unreached⟩ o w
    ⟨w.script, received, logged, readings, drawn⟩ rfl rfl
  have hlength : (s.courseIn ⟨clock, boundaries, env.unreached⟩ o
      ⟨w.script, received, logged, readings, drawn⟩).sent.length =
        (s.courseIn env o w).sent.length := by
    rw [hcourse, Course.reform_sent, List.length_map]
  simp only [answer_await, answer_dispatch, answer_called_off]
  refine ⟨⟨_, _, rfl, rfl, rfl, houtcome⟩, rfl, rfl, fun reporter => ⟨s.course_forms env o w,
    ?_, ?_⟩, fun reporter => rfl⟩
  · rw [hcourse, Course.reform_sent]
  · rw [script_left, script_left, hlength]

end Session

end MapClient
