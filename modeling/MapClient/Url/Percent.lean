import MapClient.Text.Pieces
import MapClient.Text.Spans
import MapClient.Text.Utf8

/-!
# Percent encoding

A character that would be misread in its place in a URL is written as its bytes
in hexadecimal, each after a percent sign. The places differ in the ASCII
characters they encode; the controls and everything outside ASCII are encoded
in all of them.
-/

set_option autoImplicit false

namespace MapClient.Url

open MapClient.Text

abbrev EncodeSet := Char → Bool

def inControls : EncodeSet := fun c => c.toNat < 0x20 || 0x7E < c.toNat

def inFragment : EncodeSet := fun c =>
  inControls c || c == ' ' || c == '\x22' || c == '<' || c == '>' || c == '\x60'

def inPath : EncodeSet := fun c =>
  inFragment c || c == '#' || c == '?' || c == '\x7b' || c == '\x7d'

def inUserInfo : EncodeSet := fun c =>
  inPath c || c == '/' || c == ':' || c == ';' || c == '=' || c == '@' || c == '['
    || c == '\\' || c == ']' || c == '^' || c == '|'

def inQuery : EncodeSet := fun c =>
  inControls c || c == ' ' || c == '\x22' || c == '#' || c == '<' || c == '>'

def inSpecialQuery : EncodeSet := fun c => inQuery c || c == '\x27'

def upperHex (n : Nat) : Char := Char.ofNat (if n < 10 then 48 + n else 55 + n)

def percentByte (b : UInt8) : List Char :=
  ['%', upperHex (b.toNat / 16), upperHex (b.toNat % 16)]

def percentChar (c : Char) : List Char := (String.utf8EncodeChar c).flatMap percentByte

def encodeChar (set : EncodeSet) (c : Char) : List Char :=
  if set c then percentChar c else [c]

def encode (set : EncodeSet) (cs : List Char) : List Char := cs.flatMap (encodeChar set)

def decode : List Char → List UInt8
  | [] => []
  | '%' :: a :: b :: cs =>
    match hexValue? a, hexValue? b with
    | some high, some low => UInt8.ofNat (16 * high + low) :: decode cs
    | _, _ => 0x25 :: decode (a :: b :: cs)
  | c :: cs => String.utf8EncodeChar c ++ decode cs

end MapClient.Url
