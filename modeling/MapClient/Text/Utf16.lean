/-!
# UTF-16

Units of two bytes, a character outside the first plane taking two of them. A
unit that should have a partner and has none, and a byte left over at the end,
stand for nothing that could be shown and become U+FFFD.
-/

set_option autoImplicit false

namespace MapClient.Text.Utf16

structure State where
  byte : Option UInt8
  high : Option Nat
  out : List Char

def isHigh (n : Nat) : Bool := 0xD800 ≤ n && n ≤ 0xDBFF

def isLow (n : Nat) : Bool := 0xDC00 ≤ n && n ≤ 0xDFFF

def State.lead (s : State) (n : Nat) : State :=
  if isHigh n then { s with high := some n }
  else if isLow n then { s with out := '\ufffd' :: s.out }
  else { s with out := Char.ofNat n :: s.out }

def State.unit (s : State) (n : Nat) : State :=
  match s.high with
  | none => s.lead n
  | some h =>
    let s := { s with high := none }
    if isLow n then
      { s with out := Char.ofNat (0x10000 + (h - 0xD800) * 0x400 + (n - 0xDC00)) :: s.out }
    else { s with out := '\ufffd' :: s.out }.lead n

def State.feed (bigEndian : Bool) (s : State) (b : UInt8) : State :=
  match s.byte with
  | none => { s with byte := some b }
  | some a =>
    { s with byte := none }.unit
      (if bigEndian then 256 * a.toNat + b.toNat else 256 * b.toNat + a.toNat)

def State.finish (s : State) : List Char :=
  (if s.byte.isSome || s.high.isSome then '\ufffd' :: s.out else s.out).reverse

def decode (bigEndian : Bool) (bs : List UInt8) : List Char :=
  (bs.foldl (State.feed bigEndian) ⟨none, none, []⟩).finish

end MapClient.Text.Utf16
