/-!
# Instants

A point in time as seconds and nanoseconds. A leap second has no second of its
own: it is written as the second before it with a billion nanoseconds or more.
The time between two instants counts it if it lies between them.
-/

set_option autoImplicit false

namespace MapClient

structure Instant where
  seconds : Int
  nanos : Nat
  deriving DecidableEq, Repr

namespace Instant

def billion : Nat := 1000000000

def secondOfDay (t : Instant) : Int := t.seconds % 86400

def isLeap (t : Instant) : Bool := billion ≤ t.nanos

/-- The leap second that the later time of the day has passed, counted with the
sign of the difference. -/
def leapBetween (a b : Instant) : Int :=
  if a.secondOfDay < b.secondOfDay then (if a.isLeap then 1 else 0)
  else if b.secondOfDay < a.secondOfDay then (if b.isLeap then -1 else 0)
  else 0

def nanosTo (a b : Instant) : Int :=
  (b.seconds - a.seconds + leapBetween a b) * billion + (b.nanos - a.nanos)

def wholeMillis (ns : Int) : Int := ns.tdiv 1000000

end Instant

end MapClient
