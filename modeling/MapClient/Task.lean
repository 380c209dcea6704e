import MapClient.Log.Event
import MapClient.Instant
import MapClient.Transport.Request

/-!
# Tasks

A task is a computation that needs its surroundings: the time, a fresh
boundary, the log, and the answer to a request. It is a value, so it can be
started later, or never, and several can take turns.
-/

set_option autoImplicit false

namespace MapClient

open MapClient.Http MapClient.Transport

abbrev Reply := Except ConnectFault (List UInt8)

inductive Task (α : Type) where
  | done (value : α)
  | now (next : Instant → Task α)
  | boundary (next : String → Task α)
  | log (event : Log.Event) (next : Task α)
  | ask (request : Request) (next : Reply → Task α)

namespace Task

variable {α β : Type}

def bind : Task α → (α → Task β) → Task β
  | done a, f => f a
  | now next, f => now fun t => (next t).bind f
  | boundary next, f => boundary fun b => (next b).bind f
  | log event next, f => log event (next.bind f)
  | ask request next, f => ask request fun r => (next r).bind f

def time : Task Instant := now done

def freshBoundary : Task String := boundary done

def write (event : Log.Event) : Task Unit := log event (done ())

instance : Monad Task where
  pure := done
  bind := bind

end Task

/-- What the surroundings hold ready: the readings of the clock, the
boundaries, and which URLs cannot be reached. -/
structure Surroundings where
  clock : Nat → Instant
  boundaries : Nat → String
  unreached : Url → Option ConnectFault

structure World where
  script : List (List UInt8)
  received : List Request
  logged : List Log.Event
  readings : Nat
  drawn : Nat

namespace World

def start (script : List (List UInt8)) : World := ⟨script, [], [], 0, 0⟩

def blankAnswer : List UInt8 := Text.utf8 "HTTP/1.1 200 x\r\ncontent-length: 0\r\n\r\n"

def answer (w : World) (request : Request) : List UInt8 × World :=
  (w.script.headD blankAnswer,
    { w with script := w.script.tail, received := request :: w.received })

def reply (s : Surroundings) (w : World) (request : Request) : Reply × World :=
  match s.unreached request.url with
  | some fault => (.error fault, w)
  | none => (.ok (w.answer request).1, (w.answer request).2)

end World

namespace Task

variable {α : Type}

def step (s : Surroundings) : Task α → World → Task α × World
  | done a, w => (done a, w)
  | now next, w => (next (s.clock w.readings), { w with readings := w.readings + 1 })
  | boundary next, w => (next (s.boundaries w.drawn), { w with drawn := w.drawn + 1 })
  | log event next, w => (next, { w with logged := event :: w.logged })
  | ask request next, w => (next (w.reply s request).1, (w.reply s request).2)

def run (s : Surroundings) : Task α → World → α × World
  | done a, w => (a, w)
  | now next, w => (next (s.clock w.readings)).run s { w with readings := w.readings + 1 }
  | boundary next, w => (next (s.boundaries w.drawn)).run s { w with drawn := w.drawn + 1 }
  | log event next, w => next.run s { w with logged := event :: w.logged }
  | ask request next, w => (next (w.reply s request).1).run s (w.reply s request).2

def runEach (s : Surroundings) : List (Task α) → World → List α × World
  | [], w => ([], w)
  | t :: ts, w =>
    let (a, w) := t.run s w
    let (as, w) := runEach s ts w
    (a :: as, w)

def stepAt (s : Surroundings) (tasks : List (Task α)) (i : Nat) (w : World) :
    List (Task α) × World :=
  match tasks[i]? with
  | none => (tasks, w)
  | some t =>
    let (t, w) := t.step s w
    (tasks.set i t, w)

/-- Tasks that take turns: `turns` says whose step is next, and what is left of
the tasks after all turns is run in order. -/
def interleave (s : Surroundings) (turns : List Nat) (tasks : List (Task α)) (w : World) :
    List α × World :=
  let (tasks, w) := turns.foldl (fun (tasks, w) i => stepAt s tasks i w) (tasks, w)
  runEach s tasks w

end Task

end MapClient
