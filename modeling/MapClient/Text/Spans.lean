/-!
# Tables over code points

A property of characters is a list of closed intervals of code points, each
with the numbers the property gives its members. Such a list is written in
hexadecimal, `41-5a:61` or `c0:41+300` or plain `ad`, with white space between
the entries.
-/

set_option autoImplicit false

namespace MapClient.Text

def hexValue? (c : Char) : Option Nat :=
  if '0' ≤ c ∧ c ≤ '9' then some (c.toNat - 48)
  else if 'a' ≤ c ∧ c ≤ 'f' then some (c.toNat - 87)
  else if 'A' ≤ c ∧ c ≤ 'F' then some (c.toNat - 55)
  else none

structure Span where
  low : Nat
  high : Nat
  values : List Nat
  deriving DecidableEq, Repr

namespace Span

def holds (s : Span) (n : Nat) : Bool := s.low ≤ n && n ≤ s.high

/-- The characters a table gives the member `n`. A single value is that of the
first member, and the others have the ones that follow it. -/
def image (s : Span) (n : Nat) : List Char :=
  match s.values with
  | [v] => [Char.ofNat (v + (n - s.low))]
  | vs => vs.map Char.ofNat

structure Reading where
  entries : List Span
  low : Option Nat
  high : Option Nat
  values : List Nat
  number : Option Nat

def Reading.empty : Reading := ⟨[], none, none, [], none⟩

def Reading.settle (r : Reading) : Reading :=
  match r.number, r.high with
  | none, _ => r
  | some n, none => { r with high := some n, number := none }
  | some n, some _ => { r with values := n :: r.values, number := none }

def Reading.close (r : Reading) : Reading :=
  match r.settle with
  | ⟨entries, low, some high, values, _⟩ =>
    ⟨⟨low.getD high, high, values.reverse⟩ :: entries, none, none, [], none⟩
  | ⟨entries, _, none, _, _⟩ => ⟨entries, none, none, [], none⟩

def Reading.step (r : Reading) (c : Char) : Reading :=
  match hexValue? c with
  | some d => { r with number := some (16 * r.number.getD 0 + d) }
  | none =>
    if c = '-' then { r with low := r.number, number := none }
    else if c = ':' ∨ c = '+' then r.settle
    else r.close

def ofText (text : String) : List Span :=
  (text.foldl Reading.step .empty).close.entries.reverse

end Span

def spanOf? (spans : List Span) (c : Char) : Option Span :=
  spans.find? (·.holds c.toNat)

def inSpans (spans : List Span) (c : Char) : Bool :=
  spans.any (·.holds c.toNat)

end MapClient.Text
