import MapClient.Submitter

/-!
# Sessions

A sequence of steps on one submitter. A dispatched operation runs as a task of
its own and hands its outcome to a reporter; how the task ended and what the
reporter kept is the answer of the step. Nothing else is remembered from one
step to the next.
-/

set_option autoImplicit false

namespace MapClient

inductive Reporter where
  | collect
  | log
  | panic
  deriving DecidableEq, Repr

structure Dispatch where
  operation : Operation
  reporter : Reporter
  calledOff : Bool
  deriving DecidableEq, Repr

inductive Join where
  | ok
  | panic
  | cancelled
  deriving DecidableEq, Repr

structure Finished where
  join : Join
  kept : List Outcome
  deriving DecidableEq, Repr

namespace Session

inductive Step where
  | dispatch (d : Dispatch)
  | await (operation : Operation)
  | together (ds : List Dispatch) (turns : List Nat)
  | base
  | endpoint (path : String)
  deriving DecidableEq, Repr

inductive Result where
  | finished (f : Finished)
  | awaited (outcome : Outcome)
  | together (before : Nat) (fs : List Finished)
  | text (s : String)
  deriving DecidableEq, Repr

structure Answer where
  result : Result
  requests : List Transport.Request
  events : List Log.Event
  deriving DecidableEq, Repr

def deliver (reporter : Reporter) (outcome : Outcome) : Task Finished :=
  match reporter with
  | .collect => .done ⟨.ok, [outcome]⟩
  | .log => .log outcome.report (.done ⟨.ok, []⟩)
  | .panic => .done ⟨.panic, []⟩

def task (s : Submitter) (d : Dispatch) : Task Finished :=
  if d.calledOff then .done ⟨.cancelled, []⟩
  else (s.perform d.operation).bind (deliver d.reporter)

/-- Performs one step. Nothing is sent before the tasks of a step are waited
for. -/
def perform (env : Surroundings) (s : Submitter) (step : Step) (w : World) : Result × World :=
  match step with
  | .dispatch d =>
    let (f, w) := (task s d).run env w
    (.finished f, w)
  | .await operation =>
    let (outcome, w) := (s.perform operation).run env w
    (.awaited outcome, w)
  | .together ds turns =>
    let (fs, after) := Task.interleave env turns (ds.map (task s)) w
    (.together w.received.length fs, after)
  | .base => (.text s.base, w)
  | .endpoint path => (.text (s.endpoint path), w)

def answer (env : Surroundings) (s : Submitter) (step : Step) (w : World) : Answer × World :=
  let (result, w) := perform env s step { w with received := [], logged := [] }
  (⟨result, w.received.reverse, w.logged.reverse⟩, w)

def run (env : Surroundings) (s : Submitter) : List Step → World → List Answer
  | [], _ => []
  | step :: steps, w =>
    let (a, w) := answer env s step w
    a :: run env s steps w

end Session

end MapClient
