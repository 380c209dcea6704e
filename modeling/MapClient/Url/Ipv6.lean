import MapClient.Text.Pieces
import MapClient.Text.Quoted

/-!
# IPv6 addresses

Eight numbers of up to four hexadecimal digits between colons. Two colons
together stand for one or more numbers that are zero, once; the last two
numbers may be written as an IPv4 address.
-/

set_option autoImplicit false

namespace MapClient.Url.Ipv6

open MapClient.Text

def takeDigits : Nat → List Char → List Nat × List Char
  | 0, cs => ([], cs)
  | _, [] => ([], [])
  | k + 1, c :: cs =>
    match hexValue? c with
    | none => ([], c :: cs)
    | some d => (d :: (takeDigits k cs).1, (takeDigits k cs).2)

theorem takeDigits_length (k : Nat) (cs : List Char) :
    (takeDigits k cs).1.length + (takeDigits k cs).2.length = cs.length := by
  induction k generalizing cs with
  | zero => simp [takeDigits]
  | succ k ih =>
    cases cs with
    | nil => simp [takeDigits]
    | cons c cs =>
      rw [takeDigits]
      split
      · simp
      · have := ih cs
        simp only [List.length_cons]
        omega

def byte? : List Char → Option Nat
  | [] => none
  | ['0'] => some 0
  | cs =>
    if cs.length ≤ 3 ∧ (cs.all fun c => '0' ≤ c && c ≤ '9') ∧ cs.head? ≠ some '0' then
      let n := cs.foldl (fun n c => 10 * n + (c.toNat - 48)) 0
      if n < 256 then some n else none
    else none

def tail? (cs : List Char) : Option (List Nat) :=
  match (pieces (· = '.') cs).mapM byte? with
  | some [a, b, c, d] => some [256 * a + b, 256 * c + d]
  | _ => none

/-- The numbers read so far, last first, and how many of them stand before the
end of the gap. -/
structure Groups where
  numbers : List Nat
  gap : Option Nat

def Groups.close (g : Groups) : Option (List Nat) :=
  let ns := g.numbers.reverse
  match g.gap with
  | none => if ns.length = 8 then some ns else none
  | some k =>
    if ns.length ≤ 8 then
      some (ns.take k ++ List.replicate (8 - ns.length) 0 ++ ns.drop k)
    else none

def groups? (g : Groups) (cs : List Char) : Option (List Nat) :=
  match cs with
  | [] => g.close
  | c :: cs =>
    if g.numbers.length = 8 then none
    else if c = ':' then
      match g.gap with
      | some _ => none
      | none => groups? ⟨0 :: g.numbers, some (g.numbers.length + 1)⟩ cs
    else
      match _h : takeDigits 4 (c :: cs) with
      | (digits, rest) =>
        let n := digits.foldl (16 * · + ·) 0
        match _hr : rest with
        | [] => groups? { g with numbers := n :: g.numbers } []
        | r :: rs =>
          if r = '.' then
            if digits ≠ [] ∧ g.numbers.length ≤ 6 then
              (tail? (c :: cs)).bind fun ns =>
                Groups.close { g with numbers := ns.reverse ++ g.numbers }
            else none
          else if r = ':' ∧ rs ≠ [] then groups? { g with numbers := n :: g.numbers } rs
          else none
termination_by cs.length
decreasing_by
  · simp
  · simp
  · have := takeDigits_length 4 (c :: cs)
    rw [_h] at this
    simp only [List.length_cons] at this ⊢
    omega

def parse? : List Char → Option (List Nat)
  | ':' :: ':' :: cs => groups? ⟨[0], some 1⟩ cs
  | ':' :: _ => none
  | cs => groups? ⟨[], none⟩ cs

def longestGap (ns : List Nat) : Nat × Nat :=
  (ns.foldl (fun (state : (Nat × Nat) × Nat × Nat) n =>
    let ((start, best), i, run) := state
    if n = 0 then
      (if best < run + 1 then (i - run, run + 1) else (start, best), i + 1, run + 1)
    else ((start, best), i + 1, 0)) ((0, 0), 0, 0)).1

def joinColons : List Nat → List Char
  | [] => []
  | [n] => Quoted.hexDigits n
  | n :: ns => Quoted.hexDigits n ++ ':' :: joinColons ns

def render (ns : List Nat) : List Char :=
  let (start, length) := longestGap ns
  if 2 ≤ length then
    joinColons (ns.take start) ++ [':', ':'] ++ joinColons (ns.drop (start + length))
  else joinColons ns

end MapClient.Url.Ipv6
