import MapClient.Word

/-!
# Punycode

A label in letters, digits and hyphens that stands for one with any characters.
The plain characters come first; after the last hyphen, the others follow in
the order of their numbers, each as the count of places and numbers skipped
since the one before. A count is written in digits of a base that adapts to
the counts so far.
-/

set_option autoImplicit false

namespace MapClient.Domain.Punycode

def digit (d : Nat) : Char := Char.ofNat (if d < 26 then 97 + d else 22 + d)

def digitValue? (c : Char) : Option Nat :=
  if 'a' ≤ c ∧ c ≤ 'z' then some (c.toNat - 97)
  else if 'A' ≤ c ∧ c ≤ 'Z' then some (c.toNat - 65)
  else if '0' ≤ c ∧ c ≤ '9' then some (c.toNat - 22)
  else none

def threshold (k bias : Nat) : Nat := max 1 (min 26 (k - bias))

theorem threshold_pos (k bias : Nat) : 1 ≤ threshold k bias := by
  simp only [threshold]
  omega

theorem threshold_le (k bias : Nat) : threshold k bias ≤ 26 := by
  simp only [threshold]
  omega

def settle (delta k : Nat) : Nat :=
  if 455 < delta then settle (delta / 35) (k + 36) else k + 36 * delta / (delta + 38)
termination_by delta

def adapt (delta placed : Nat) (isFirst : Bool) : Nat :=
  let delta := if isFirst then delta / 700 else delta / 2
  settle (delta + delta / placed) 0

def countDigits (bias k n : Nat) : List Char :=
  let t := threshold k bias
  if n < t then [digit n]
  else digit (t + (n - t) % (36 - t)) :: countDigits bias (k + 36) ((n - t) / (36 - t))
termination_by n
decreasing_by
  have := threshold_pos k bias
  have := threshold_le k bias
  calc
    (n - threshold k bias) / (36 - threshold k bias)
      ≤ n - threshold k bias := Nat.div_le_self _ _
    _ < n := by omega

structure Encoding where
  out : List Char
  delta : Nat
  bias : Nat
  placed : Nat

def Encoding.pass (plain n : Nat) (e : Encoding) (c : Char) : Encoding :=
  if c.toNat < n then { e with delta := e.delta + 1 }
  else if c.toNat = n then
    ⟨(countDigits e.bias 36 e.delta).reverse ++ e.out, 0,
      adapt e.delta (e.placed + 1) (e.placed == plain), e.placed + 1⟩
  else e

def Encoding.place (plain : Nat) (label : List Char) (state : Encoding × Nat) (n : Nat) :
    Encoding × Nat :=
  let skipped := { state.1 with delta := state.1.delta + (n - state.2) * (state.1.placed + 1) }
  let placed := label.foldl (·.pass plain n) skipped
  ({ placed with delta := placed.delta + 1 }, n + 1)

def isPlain (c : Char) : Bool := c.toNat < 0x80

def insertNumber (n : Nat) : List Nat → List Nat
  | [] => [n]
  | m :: ms => if n < m then n :: m :: ms else if n = m then m :: ms else m :: insertNumber n ms

def numbers (label : List Char) : List Nat :=
  label.foldl (fun ns c => if isPlain c then ns else insertNumber c.toNat ns) []

def encode (label : List Char) : List Char :=
  let plain := label.filter isPlain
  let counts := (numbers label).foldl (Encoding.place plain.length label)
    (⟨[], 0, 72, plain.length⟩, 128)
  (if plain = [] then [] else plain ++ ['-']) ++ counts.1.out.reverse

def splitPlain (cs : List Char) : List Char × List Char :=
  let back := cs.reverse
  match back.dropWhile (· ≠ '-') with
  | [] | [_] => ([], cs)
  | _ :: plain => (plain.reverse, (back.takeWhile (· ≠ '-')).reverse)

/-- What has been placed, where the next character goes at the earliest, its
number at the least, the bias, and the count being read with the weight and
position of its next digit. -/
structure Decoding where
  label : List Char
  next : Nat
  number : Nat
  bias : Nat
  count : Nat
  weight : Nat
  position : Nat

def Decoding.start (plain : List Char) : Decoding := ⟨plain, 0, 128, 72, 0, 1, 36⟩

def Decoding.isWhole (d : Decoding) : Bool := d.position == 36

def Decoding.read (d : Decoding) (c : Char) : Option Decoding :=
  (digitValue? c).bind fun v =>
    let count := d.count + v * d.weight
    let t := threshold d.position d.bias
    if Word.count32 ≤ count + d.next then none
    else if t ≤ v then
      let weight := d.weight * (36 - t)
      if weight < Word.count32 then
        some { d with count := count, weight := weight, position := d.position + 36 }
      else none
    else
      let places := d.label.length + 1
      let number := d.number + (d.next + count) / places
      let place := (d.next + count) % places
      if h : number.isValidChar then
        some ⟨d.label.insertIdx place (Char.ofNatAux number h), place + 1, number,
          adapt count places (d.next == 0), 0, 1, 36⟩
      else none

def decode? (cs : List Char) : Option (List Char) :=
  let (plain, counts) := splitPlain cs
  if plain.all isPlain then
    ((counts.foldlM Decoding.read (.start plain)).filter Decoding.isWhole).map (·.label)
  else none

end MapClient.Domain.Punycode
