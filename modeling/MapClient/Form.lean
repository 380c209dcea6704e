import MapClient.Http.Body

/-!
# Forms

Named values sent as one body, each as a part between lines that hold the
boundary. Values go out as they are, so a boundary must not occur in them;
then the body can be read back.
-/

set_option autoImplicit false

namespace MapClient.Form

open MapClient.Text

def dashes : List UInt8 := [0x2D, 0x2D]

def delimiter (boundary : String) : List UInt8 := dashes ++ utf8 boundary

def disposition (name : String) : List UInt8 :=
  utf8 ("Content-Disposition: form-data; name=\x22" ++ name ++ "\x22")

def encodePart (boundary : String) (field : String × String) : List UInt8 :=
  delimiter boundary ++ Http.crlf ++ disposition field.1 ++ Http.crlf ++ Http.crlf
    ++ utf8 field.2 ++ Http.crlf

def encode (boundary : String) (fields : List (String × String)) : List UInt8 :=
  fields.flatMap (encodePart boundary) ++ delimiter boundary ++ dashes ++ Http.crlf

def contentType (boundary : String) : String := "multipart/form-data; boundary=" ++ boundary

def cutAt (mark : List UInt8) : List UInt8 → Option (List UInt8 × List UInt8)
  | [] => if mark = [] then some ([], []) else none
  | b :: bs =>
    match after? mark (b :: bs) with
    | some rest => some ([], rest)
    | none => (cutAt mark bs).map fun r => (b :: r.1, r.2)

structure Part where
  head : List (List UInt8)
  value : List UInt8
  deriving DecidableEq, Repr

def readLines : Nat → List UInt8 → Option (List (List UInt8) × List UInt8)
  | 0, _ => none
  | k + 1, bs => do
    let (line, rest) ← cutAt Http.crlf bs
    if line = [] then some ([], rest)
    else
      let (lines, rest) ← readLines k rest
      some (line :: lines, rest)

def readParts (mark : List UInt8) : Nat → List UInt8 → Option (List Part)
  | 0, _ => none
  | k + 1, bs =>
    match after? dashes bs with
    | some rest => if rest = Http.crlf ∨ rest = [] then some [] else none
    | none => do
      let rest ← after? Http.crlf bs
      let (head, rest) ← readLines rest.length rest
      let (value, rest) ← cutAt (Http.crlf ++ mark) rest
      let parts ← readParts mark k rest
      some (⟨head, value⟩ :: parts)

def parts? (boundary : String) (body : List UInt8) : Option (List Part) :=
  (after? (delimiter boundary) body).bind (readParts (delimiter boundary) body.length)

def Part.field? (part : Part) : Option (String × String) :=
  match part.head with
  | [line] => do
    let rest ← after? (utf8 "Content-Disposition: form-data; name=\x22") line
    let (name, rest) ← cutAt [0x22] rest
    if rest = [] then return (← ofUtf8? name, ← ofUtf8? part.value) else none
  | _ => none

def decode? (boundary : String) (body : List UInt8) : Option (List (String × String)) :=
  (parts? boundary body).bind (·.mapM Part.field?)

end MapClient.Form
