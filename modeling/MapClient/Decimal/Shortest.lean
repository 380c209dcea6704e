import MapClient.Decimal.Nearest

/-!
# Shortest decimals

The fewest decimal digits that stand for a number, and of those the nearest to
it. They are written without an exponent, filled up with zeros on either side
of the point; a whole number has no point.
-/

set_option autoImplicit false

namespace MapClient.Decimal

structure Neighbourhood where
  low : Ratio
  high : Ratio
  closed : Bool

def Binary.neighbourhood (b : Binary) : Neighbourhood where
  low :=
    if b.m = Nat.pow 2 52 ∧ leastExponent < b.q then .scaled (4 * b.m - 1) 2 (b.q - 2)
    else .scaled (2 * b.m - 1) 2 (b.q - 1)
  high := .scaled (2 * b.m + 1) 2 (b.q - 1)
  closed := b.m % 2 = 0

def Neighbourhood.holds (h : Neighbourhood) (r : Ratio) : Bool :=
  if h.closed then h.low.le r && r.le h.high else h.low.lt r && r.lt h.high

def magnitude (r : Ratio) : Nat → Int → Int
  | 0, p => p
  | k + 1, p =>
    if (r.times 10 (1 - p)).floor = 0 then magnitude r k (p - 1) else p

structure Digits where
  n : Nat
  e : Int
  deriving DecidableEq, Repr

def Digits.ratio (d : Digits) : Ratio := .scaled d.n 10 d.e

def nearerBelow (r a b : Ratio) : Bool :=
  2 * r.num * (a.den * b.den) < (a.num * b.den + b.num * a.den) * r.den

def onGrid? (h : Neighbourhood) (r : Ratio) (e : Int) : Option Digits :=
  let n := (r.times 10 (-e)).floor
  let below : Digits := ⟨n, e⟩
  let above : Digits := ⟨n + 1, e⟩
  match h.holds below.ratio, h.holds above.ratio with
  | true, true => some (if nearerBelow r below.ratio above.ratio then below else above)
  | true, false => some below
  | false, true => some above
  | false, false => none

def firstGrid (h : Neighbourhood) (r : Ratio) : Nat → Int → Digits
  | 0, e => ⟨(r.times 10 (-e)).nearest, e⟩
  | k + 1, e =>
    match onGrid? h r e with
    | some d => d
    | none => firstGrid h r k (e - 1)

/-- The fewest digits that stand for a number. Seventeen always do; a number
that is nearly a power of ten may need only that power. -/
def Binary.shortest (b : Binary) : Digits :=
  let r := b.ratio
  let p := magnitude r 400 (digitCount r.floor)
  firstGrid b.neighbourhood r 18 p

def Digits.positional (d : Digits) : String :=
  let ds := Nat.toDigits 10 d.n
  if 0 ≤ d.e then .ofList (ds ++ List.replicate d.e.toNat '0')
  else
    let places := (-d.e).toNat
    let padded := List.replicate (places + 1 - ds.length) '0' ++ ds
    .ofList (padded.take (padded.length - places) ++ '.' :: padded.drop (padded.length - places))

def Binary.render (b : Binary) : String :=
  if b.m = 0 then "0" else b.shortest.positional

end MapClient.Decimal
