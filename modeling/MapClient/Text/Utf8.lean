/-!
# UTF-8

A decoder that never fails: a byte that cannot continue the sequence it stands
in ends that sequence as ill-formed and is read again as the start of the next.
So each ill-formed stretch that could have begun a character counts once, which
is what a replacement character stands for.
-/

set_option autoImplicit false

namespace MapClient.Text.Utf8

def encode (cs : List Char) : List UInt8 := cs.flatMap String.utf8EncodeChar

/-- Between characters, or within one: how many bytes it still needs, the bounds
of the next one, and the bits so far. -/
inductive State where
  | start
  | within (owed : Nat) (low high : UInt8) (bits : Nat)
  deriving DecidableEq, Repr

abbrev Decoded := List (Option Char)

def lead (out : Decoded) (b : UInt8) : State × Decoded :=
  if b < 0x80 then (.start, some (Char.ofNat b.toNat) :: out)
  else if b < 0xC2 then (.start, none :: out)
  else if b < 0xE0 then (.within 0 0x80 0xBF (b.toNat - 0xC0), out)
  else if b = 0xE0 then (.within 1 0xA0 0xBF 0, out)
  else if b = 0xED then (.within 1 0x80 0x9F 0xD, out)
  else if b < 0xF0 then (.within 1 0x80 0xBF (b.toNat - 0xE0), out)
  else if b = 0xF0 then (.within 2 0x90 0xBF 0, out)
  else if b < 0xF4 then (.within 2 0x80 0xBF (b.toNat - 0xF0), out)
  else if b = 0xF4 then (.within 2 0x80 0x8F 4, out)
  else (.start, none :: out)

def feed : State × Decoded → UInt8 → State × Decoded
  | (.start, out), b => lead out b
  | (.within owed low high bits, out), b =>
    if low ≤ b ∧ b ≤ high then
      let bits := 64 * bits + b.toNat % 64
      match owed with
      | 0 => (.start, some (Char.ofNat bits) :: out)
      | n + 1 => (.within n 0x80 0xBF bits, out)
    else lead (none :: out) b

def finish : State × Decoded → Decoded
  | (.start, out) => out.reverse
  | (.within .., out) => (none :: out).reverse

def scan (bs : List UInt8) : Decoded := finish (bs.foldl feed (.start, []))

def decode (bs : List UInt8) : List Char := (scan bs).map (·.getD '\ufffd')

def decode? (bs : List UInt8) : Option (List Char) :=
  let cs := scan bs
  if cs.all Option.isSome then some (cs.filterMap id) else none

end Utf8

def utf8 (s : String) : List UInt8 := Utf8.encode s.toList

def ofUtf8 (bs : List UInt8) : String := .ofList (Utf8.decode bs)

def ofUtf8? (bs : List UInt8) : Option String := (Utf8.decode? bs).map .ofList

end MapClient.Text
