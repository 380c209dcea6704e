/-!
# Numbers of 53 bits

The finite numbers with a significand of 53 bits, as fractions `m · 2 ^ q`. A
decimal number stands for the nearest of them, and for the one with the even
significand if two are equally near. All arithmetic is on natural numbers, so
nothing is rounded twice.
-/

set_option autoImplicit false

namespace MapClient.Decimal

structure Ratio where
  num : Nat
  den : Nat
  deriving DecidableEq, Repr

structure Binary where
  m : Nat
  q : Int
  deriving DecidableEq, Repr

def leastExponent : Int := -1074

def greatestExponent : Int := 971

def Ratio.scaled (n b : Nat) (e : Int) : Ratio :=
  if 0 ≤ e then ⟨n * b.pow e.toNat, 1⟩ else ⟨n, b.pow (-e).toNat⟩

def Ratio.times (r : Ratio) (b : Nat) (e : Int) : Ratio :=
  if 0 ≤ e then ⟨r.num * b.pow e.toNat, r.den⟩ else ⟨r.num, r.den * b.pow (-e).toNat⟩

def Ratio.floor (r : Ratio) : Nat := r.num / r.den

def Ratio.lt (a b : Ratio) : Bool := a.num * b.den < b.num * a.den

def Ratio.le (a b : Ratio) : Bool := a.num * b.den ≤ b.num * a.den

def Ratio.nearest (r : Ratio) : Nat :=
  let n := r.floor
  let twice := 2 * (r.num % r.den)
  if twice < r.den then n
  else if r.den < twice then n + 1
  else if n % 2 = 0 then n
  else n + 1

def exponentOf (r : Ratio) : Int :=
  let guess : Int := (Nat.log2 r.num : Int) - Nat.log2 r.den - 52
  max leastExponent (if (r.times 2 (-guess)).floor < Nat.pow 2 52 then guess - 1 else guess)

def Binary.ofRatio? (r : Ratio) : Option Binary :=
  let q := exponentOf r
  let m := (r.times 2 (-q)).nearest
  let b : Binary := if m = Nat.pow 2 53 then ⟨Nat.pow 2 52, q + 1⟩ else ⟨m, q⟩
  if b.q ≤ greatestExponent then some b else none

def digitCount (n : Nat) : Nat := (Nat.toDigits 10 n).length

/-- The nearest number to `n · 10 ^ e`. Beyond these exponents nothing is left
to compare. -/
def Binary.ofDecimal? (n : Nat) (e : Int) : Option Binary :=
  if n = 0 then some ⟨0, leastExponent⟩
  else if 400 < e + digitCount n then none
  else if e + digitCount n < -400 then some ⟨0, leastExponent⟩
  else Binary.ofRatio? (.scaled n 10 e)

def Binary.ratio (b : Binary) : Ratio := .scaled b.m 2 b.q

end MapClient.Decimal
