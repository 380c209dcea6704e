import MapClient.Http.Fault
import MapClient.Http.Status
import MapClient.Text.Pieces
import MapClient.Text.Utf8

/-!
# Heads of responses

A status line and headers, up to the first empty line. Lines may end with or
without a carriage return; a malformed byte is reported as soon as it is seen,
even if the connection ends right after it. The reason in the status line is
passed over.
-/

set_option autoImplicit false

namespace MapClient.Http

open MapClient.Text

structure Header where
  name : String
  value : List UInt8
  deriving DecidableEq, Repr

inductive Version where
  | http10
  | http11
  deriving DecidableEq, Repr

structure Head where
  version : Version
  status : Status
  headers : List Header
  deriving DecidableEq, Repr

def Head.values (h : Head) (name : String) : List (List UInt8) :=
  (h.headers.filter (·.name == name)).map (·.value)

def headerLimit : Nat := 100

def headLimit : Nat := 417792

def nameLimit : Nat := 65536

def isDigitByte (b : UInt8) : Bool := 0x30 ≤ b && b ≤ 0x39

def isBlankByte (b : UInt8) : Bool := b == 0x20 || b == 0x09

def isTokenByte (b : UInt8) : Bool :=
  isDigitByte b || (0x41 ≤ b && b ≤ 0x5A) || (0x5E ≤ b && b ≤ 0x7A) || b == 0x21
    || (0x23 ≤ b && b ≤ 0x27) || b == 0x2A || b == 0x2B || b == 0x2D || b == 0x2E
    || b == 0x7C || b == 0x7E

def isTextByte (b : UInt8) : Bool := b == 0x09 || (0x20 ≤ b && b ≠ 0x7F)

namespace Head

def lineBreak (fault : HeadFault) : List UInt8 → Except HeadFault (List UInt8)
  | [] | [0x0D] => .error .closed
  | 0x0D :: 0x0A :: bs => .ok bs
  | 0x0A :: bs => .ok bs
  | _ => .error fault

def skipBreaks : List UInt8 → Except HeadFault (List UInt8)
  | [] | [0x0D] => .error .closed
  | 0x0D :: 0x0A :: bs => skipBreaks bs
  | 0x0A :: bs => skipBreaks bs
  | 0x0D :: _ => .error .header
  | bs => .ok bs

def versions : List (List UInt8 × Version) :=
  [(utf8 "HTTP/1.0", .http10), (utf8 "HTTP/1.1", .http11)]

def readVersion (bs : List UInt8) : Except HeadFault (Version × List UInt8) :=
  if (bs.take 8).length < 8 then
    if bs.isPrefixOf (utf8 "HTTP/1.") then .error .closed else .error .version
  else
    match versions.lookup (bs.take 8), bs.drop 8 with
    | none, _ => .error .version
    | some _, [] => .error .closed
    | some v, b :: rest => if b = 0x20 then .ok (v, rest) else .error .version

def readDigits : Nat → Nat → List UInt8 → Except HeadFault (Nat × List UInt8)
  | 0, n, bs => .ok (n, bs)
  | _ + 1, _, [] => .error .closed
  | k + 1, n, b :: bs =>
    if isDigitByte b then readDigits k (10 * n + (b.toNat - 48)) bs else .error .status

def readReason : List UInt8 → Except HeadFault (List UInt8)
  | 0x20 :: bs => lineBreak .status (bs.dropWhile isTextByte)
  | bs => lineBreak .status bs

def lowerByte (b : UInt8) : Char :=
  Char.ofNat (if 0x41 ≤ b ∧ b ≤ 0x5A then b.toNat + 32 else b.toNat)

def readHeader (bs : List UInt8) : Except HeadFault (Header × List UInt8) :=
  match bs.span isTokenByte with
  | (_, []) => .error .closed
  | ([], _) => .error .header
  | (name, b :: rest) =>
    if b = 0x3A then
      let (value, rest) := (rest.dropWhile isBlankByte).span isTextByte
      (lineBreak .header rest).map fun rest =>
        (⟨.ofList (name.map lowerByte), dropEnd isBlankByte value⟩, rest)
    else .error .header

def readHeaders (slots : Nat) (bs : List UInt8) :
    Except HeadFault (List Header × List UInt8) :=
  match bs with
  | [] => .error .closed
  | b :: _ =>
    if b = 0x0D ∨ b = 0x0A then (lineBreak .header bs).map fun rest => ([], rest)
    else if isTokenByte b then
      match slots with
      | 0 => .error .tooLarge
      | slots + 1 => do
        let (header, rest) ← readHeader bs
        let (headers, rest) ← readHeaders slots rest
        return (header :: headers, rest)
    else .error .header

def readWithin (bs : List UInt8) : Except HeadFault (Head × List UInt8) := do
  let (version, rest) ← readVersion (← skipBreaks bs)
  let (code, rest) ← readDigits 3 0 rest
  let (headers, rest) ← readHeaders headerLimit (← readReason rest)
  match Status.ofNat? code with
  | none => throw .status
  | some status =>
    if headers.any fun h => nameLimit ≤ h.name.length then throw .tooLarge
    return (⟨version, status, headers⟩, rest)

/-- Reads a head. The bytes are counted between two arrivals, so a head beyond the
limit is read if it arrives at once: how long it may be, `room`, depends on how the
answer arrives, and is the limit at least. -/
def read (room : Nat) (bs : List UInt8) : Except HeadFault (Head × List UInt8) :=
  let (near, far) := bs.splitAt room
  match readWithin near with
  | .ok (head, rest) => .ok (head, rest ++ far)
  | .error .closed => .error (if near.length < headLimit then .closed else .tooLarge)
  | .error fault => .error fault

def readFinal (room : Nat) : Nat → List UInt8 → Except HeadFault (Head × List UInt8)
  | 0, _ => .error .closed
  | k + 1, bs => do
    let (head, rest) ← read room bs
    if head.status.isInterim then readFinal room k rest else return (head, rest)

end Head

end MapClient.Http
