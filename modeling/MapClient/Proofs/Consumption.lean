import MapClient.Proofs.Likeness

/-!
# What a step uses up

A step uses up one answer for each request that the backend gets during it, and
these decide what it answers. What was there before is gone, and what comes after
them is not looked at.
-/

set_option autoImplicit false

namespace MapClient.Session

open MapClient.Text MapClient.Transport

section
variable (env : Surroundings) (s : Submitter)

def leave : List Step → World → World
  | [], w => w
  | step :: steps, w => leave steps (answer env s step w).2

def usedUp : List Answer → Nat
  | [] => 0
  | a :: answers => a.requests.length + usedUp answers

theorem run_cons (step : Step) (steps : List Step) (w : World) :
    run env s (step :: steps) w =
      (answer env s step w).1 :: run env s steps (answer env s step w).2 := rfl

theorem run_length (steps : List Step) (w : World) :
    (run env s steps w).length = steps.length := by
  induction steps generalizing w with
  | nil => rfl
  | cons step steps ih => rw [run_cons, List.length_cons, List.length_cons, ih]

theorem run_append (steps more : List Step) (w : World) :
    run env s (steps ++ more) w = run env s steps w ++ run env s more (leave env s steps w) := by
  induction steps generalizing w with
  | nil => rfl
  | cons step steps ih => rw [List.cons_append, run_cons, run_cons, ih, leave, List.cons_append]

theorem leave_append (steps more : List Step) (w : World) :
    leave env s (steps ++ more) w = leave env s more (leave env s steps w) := by
  induction steps generalizing w with
  | nil => rfl
  | cons step steps ih => exact ih (answer env s step w).2

theorem perform_hands (step : Step) (w : World) :
    ∃ ds, w.Hands ds (perform env s step w).2 := by
  cases step with
  | dispatch d =>
    obtain ⟨ds, hhands, -⟩ := Task.run_hands env (task s d) w
    exact ⟨ds, hhands⟩
  | await operation =>
    obtain ⟨ds, hhands, -⟩ := Task.run_hands env (s.perform operation) w
    exact ⟨ds, hhands⟩
  | together dispatches turns =>
    obtain ⟨ds, hhands, -⟩ :=
      Task.interleave_served env turns (dispatches.map (task s)) w
    exact ⟨ds.map Prod.snd, hhands⟩
  | base => exact ⟨[], w.hands_nothing w rfl rfl⟩
  | endpoint path => exact ⟨[], w.hands_nothing w rfl rfl⟩

/-- A step uses up as many answers as there are requests. -/
theorem answer_uses (step : Step) (w : World) :
    (answer env s step w).2.script = w.script.drop (answer env s step w).1.requests.length := by
  obtain ⟨ds, hhands⟩ := perform_hands env s step (fresh w)
  have hrequests : (answer env s step w).1.requests = ds.map (·.request) := by
    change (perform env s step (fresh w)).2.received.reverse = _
    rw [hhands.received]
    simp [fresh]
  rw [hrequests, List.length_map]
  exact hhands.script

theorem leave_uses (steps : List Step) (w : World) :
    (leave env s steps w).script = w.script.drop (usedUp (run env s steps w)) := by
  induction steps generalizing w with
  | nil => rfl
  | cons step steps ih =>
    rw [leave, ih, answer_uses, List.drop_drop]
    rfl

end

theorem answer_alike (env env' : Surroundings) (s : Submitter) (step : Step) (w w' : World)
    (hnet : env'.unreached = env.unreached) (hstep : ∀ ds turns, step ≠ .together ds turns)
    (h : handed (answer env s step w).1.requests.length w'.script =
      handed (answer env s step w).1.requests.length w.script) :
    (answer env s step w).1.Like (answer env' s step w').1 := by
  cases step with
  | dispatch d =>
    obtain ⟨o, reporter, calledOff⟩ := d
    cases calledOff with
    | true => exact ⟨.finished _ _ ⟨rfl, .nil⟩, .nil, rfl⟩
    | false =>
      rw [answer_dispatch] at h ⊢
      rw [answer_dispatch]
      have hcourse := s.courseIn_alike env env' o w w' hnet h
      have houtcome := s.outcomeIn_alike env env' o w w' hcourse
      refine ⟨.finished _ _ (reporter.finish_like _ _ houtcome), hcourse.sent, ?_⟩
      rw [List.map_append, List.map_append, s.eventsIn_alike env env' o w w' hcourse,
        reporter.events_untimed _ _ houtcome]
  | await o =>
    rw [answer_await] at h ⊢
    rw [answer_await]
    have hcourse := s.courseIn_alike env env' o w w' hnet h
    refine ⟨.awaited _ _ (s.outcomeIn_alike env env' o w w' hcourse), hcourse.sent, ?_⟩
    rw [s.eventsIn_alike env env' o w w' hcourse]
  | together ds turns => exact absurd rfl (hstep ds turns)
  | base => exact ⟨.text _, .nil, rfl⟩
  | endpoint path => exact ⟨.text _, .nil, rfl⟩

theorem run_middle (env : Surroundings) (s : Submitter) (earlier later : List Step) (step : Step)
    (w : World) :
    (run env s (earlier ++ step :: later) w).take earlier.length = run env s earlier w ∧
      (run env s (earlier ++ step :: later) w)[earlier.length]? =
        some (answer env s step (leave env s earlier w)).1 := by
  have hlength := run_length env s earlier w
  rw [run_append]
  constructor
  · rw [← hlength, List.take_left]
  · rw [← hlength, List.getElem?_append_right (Nat.le_refl _), Nat.sub_self]
    rfl

/-- Whatever the steps and the answers before it were, and whatever comes after
it: a step that is performed by itself uses up an answer for each request, and
answers the same wherever it finds the same answers to use up. -/
theorem nothing_remembered (s : Submitter) (env : Surroundings) (clock : Nat → Instant)
    (boundaries : Nat → String) (earlier later earlier' later' : List Step) (step : Step)
    (hstep : ∀ ds turns, step ≠ .together ds turns) (w w' : World) :
    let env' : Surroundings := ⟨clock, boundaries, env.unreached⟩
    let answers := run env s (earlier ++ step :: later) w
    let answers' := run env' s (earlier' ++ step :: later') w'
    let left := w.script.drop (usedUp (answers.take earlier.length))
    let left' := w'.script.drop (usedUp (answers'.take earlier'.length))
    ∃ a a', answers[earlier.length]? = some a ∧ answers'[earlier'.length]? = some a' ∧
      (leave env s earlier w).script = left ∧
      (leave env s (earlier ++ [step]) w).script = left.drop a.requests.length ∧
      (handed a.requests.length left' = handed a.requests.length left → a.Like a') := by
  intro env' answers answers' left left'
  obtain ⟨htake, ha⟩ := run_middle env s earlier later step w
  obtain ⟨htake', ha'⟩ := run_middle env' s earlier' later' step w'
  have hleft : (leave env s earlier w).script = left := by
    rw [leave_uses, ← htake]
  have hleft' : (leave env' s earlier' w').script = left' := by
    rw [leave_uses, ← htake']
  refine ⟨_, _, ha, ha', hleft, ?_, ?_⟩
  · rw [leave_append, ← hleft]
    exact answer_uses env s step (leave env s earlier w)
  · intro h
    rw [← hleft, ← hleft'] at h
    exact answer_alike env env' s step _ _ rfl hstep h

def movedAnswer : List UInt8 :=
  utf8 "HTTP/1.1 302 x\r\nlocation: /b\r\ncontent-length: 0\r\n\r\n"

def missingAnswer : List UInt8 := utf8 "HTTP/1.1 404 x\r\ncontent-length: 0\r\n\r\n"

def movedSubmit : Step := .dispatch ⟨.submit (.server "A" "1.2.3.4"), .collect, false⟩

attribute [local instance] Transport.Reader.usual

def movedSession (earlier later : List Step) (script : Script) : List Answer :=
  run .still (.ofBase {} "http://[::1]") (earlier ++ movedSubmit :: later) (.start script)

/-- What two sessions have in common is that the third and fourth answer of one
are the first and second of the other. -/
theorem movedSubmit_alike :
    ∃ a a',
      (movedSession [.await (.list .servers)] [.base]
        [movedAnswer, missingAnswer, movedAnswer, missingAnswer])[1]? = some a ∧
      (movedSession [.base] [] [movedAnswer, missingAnswer, movedAnswer])[1]? = some a' ∧
      a.requests.length = 2 ∧ a.Like a' := by
  obtain ⟨a, a', ha, ha', -, -, hlike⟩ := nothing_remembered (.ofBase {} "http://[::1]")
    .still (fun _ => ⟨0, 0⟩) (fun _ => "x")
    [.await (.list .servers)] [.base] [.base] [] movedSubmit (fun _ _ h => by cases h)
    (.start [movedAnswer, missingAnswer, movedAnswer, missingAnswer])
    (.start [movedAnswer, missingAnswer, movedAnswer])
  have htwo : a.requests.length = 2 := by
    have hsome : (movedSession [.await (.list .servers)] [.base]
        [movedAnswer, missingAnswer, movedAnswer, missingAnswer])[1]?.map
          (·.requests.length) = some 2 := by
      decide +kernel
    exact Option.some.inj ((congrArg _ ha.symm).trans hsome)
  refine ⟨a, a', ha, ha', htwo, hlike ?_⟩
  rw [htwo]
  decide +kernel

end MapClient.Session
