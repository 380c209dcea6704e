import MapClient.Http.Head
import MapClient.Text.Quoted
import MapClient.Word

/-!
# Bodies of responses

Where a body ends follows from the head: it has a given length, comes in
chunks that each announce their length, or goes on until the connection is
closed. A body with an announced end that does not come is no body.
-/

set_option autoImplicit false

namespace MapClient.Http

open MapClient.Text

inductive Framing where
  | empty
  | length (n : Nat)
  | chunked
  | untilClose
  deriving DecidableEq, Repr

def asciiText? (value : List UInt8) : Option (List Char) :=
  value.mapM fun b =>
    if b = 0x09 ∨ (0x20 ≤ b ∧ b < 0x7F) then some (Char.ofNat b.toNat) else none

def isBlankChar (c : Char) : Bool := c == ' ' || c == '\t'

def listItems (value : List Char) : List (List Char) :=
  (pieces (· = ',') value).map (strip isBlankChar)

def length? (digits : List Char) : Option Nat :=
  if digits ≠ [] ∧ (digits.all fun c => '0' ≤ c && c ≤ '9') then
    let n := digits.foldl (fun n c => 10 * n + (c.toNat - 48)) 0
    if n < Word.count64 then some n else none
  else none

def agreedLength? (values : List (List UInt8)) : Option Nat := do
  let texts ← values.mapM asciiText?
  let lengths ← (texts.flatMap listItems).mapM length?
  match lengths with
  | n :: ns => if ns.all (· == n) then some n else none
  | [] => none

def lowerAscii (c : Char) : Char := if 'A' ≤ c ∧ c ≤ 'Z' then Char.ofNat (c.toNat + 32) else c

def endsChunked (values : List (List UInt8)) : Bool :=
  (do
    let text ← asciiText? (← values.getLast?)
    let coding ← (listItems text).getLast?
    return coding.map lowerAscii == "chunked".toList) == some true

def uncountable : Nat := Word.count64 - 2

def framing (head : Head) : Except HeadFault Framing :=
  if head.status.isBodiless || head.status.code == 101 then .ok .empty
  else
    match head.values "transfer-encoding", head.values "content-length" with
    | [], [] => .ok .untilClose
    | [], lengths =>
      match agreedLength? lengths with
      | none => .error .contentLength
      | some n => if n < uncountable then .ok (.length n) else .error .tooLarge
    | codings, _ =>
      if head.version = .http10 then .error .transferEncoding
      else .ok (if endsChunked codings then .chunked else .untilClose)

/-- Where a reader of chunks stands. Within the data of a chunk, `more` bytes
follow the next one. -/
inductive ChunkState where
  | start
  | size (n : Nat)
  | sizeBlank (n : Nat)
  | extension (n : Nat)
  | sizeEnd (n : Nat)
  | data (more : Nat)
  | dataReturn
  | dataEnd
  | trailer
  | trailerEnd
  | lastReturn
  | lastEnd
  | finished
  | failed (fault : BodyFault)
  deriving DecidableEq, Repr

namespace ChunkState

def hexByte? (b : UInt8) : Option Nat :=
  if b < 0x80 then hexValue? (Char.ofNat b.toNat) else none

def addDigit (n d : Nat) : ChunkState :=
  if 16 * n + d < Word.count64 then .size (16 * n + d) else .failed .sizeTooLarge

def afterSize (n : Nat) (b : UInt8) (fault : BodyFault) : ChunkState :=
  if isBlankByte b then .sizeBlank n
  else if b = 0x3B then .extension n
  else if b = 0x0D then .sizeEnd n
  else .failed fault

def next : ChunkState → UInt8 → ChunkState
  | .start, b => (hexByte? b).elim (.failed .sizeMissing) (addDigit 0)
  | .size n, b => (hexByte? b).elim (afterSize n b .sizeMalformed) (addDigit n)
  | .sizeBlank n, b => afterSize n b .sizeBlank
  | .extension n, b =>
    if b = 0x0D then .sizeEnd n
    else if b = 0x0A then .failed .extensionLineFeed
    else .extension n
  | .sizeEnd n, b =>
    if b = 0x0A then
      match n with
      | 0 => .lastReturn
      | more + 1 => .data more
    else .failed .sizeLineFeed
  | .data 0, _ => .dataReturn
  | .data (more + 1), _ => .data more
  | .dataReturn, b => if b = 0x0D then .dataEnd else .failed .dataReturn
  | .dataEnd, b => if b = 0x0A then .start else .failed .dataLineFeed
  | .trailer, b => if b = 0x0D then .trailerEnd else .trailer
  | .trailerEnd, b => if b = 0x0A then .lastReturn else .failed .trailerLineFeed
  | .lastReturn, b => if b = 0x0D then .lastEnd else .trailer
  | .lastEnd, b => if b = 0x0A then .finished else .failed .endLineFeed
  | .finished, _ => .finished
  | .failed fault, _ => .failed fault

def kept : ChunkState → UInt8 → List UInt8
  | .data _, b => [b]
  | _, _ => []

def widens : ChunkState → UInt8 → Nat
  | .extension _, b => if b = 0x0D ∨ b = 0x0A then 0 else 1
  | _, _ => 0

end ChunkState

structure ChunkReader where
  state : ChunkState
  extended : Nat
  out : List UInt8

def fits (room : Option Nat) (extended : Nat) : Bool := room.all fun most => extended ≤ most

namespace ChunkReader

def start : ChunkReader := ⟨.start, 0, []⟩

def feed (room : Option Nat) (r : ChunkReader) (b : UInt8) : ChunkReader :=
  let extended := r.extended + r.state.widens b
  ⟨if fits room extended then r.state.next b else .failed .extensionsTooLong, extended,
    r.state.kept b ++ r.out⟩

def finish (r : ChunkReader) : Except BodyFault (List UInt8) :=
  match r.state with
  | .finished => .ok r.out.reverse
  | .failed fault => .error fault
  | .data _ => .error .cutShort
  | _ => .error .sizeLineCutShort

end ChunkReader

def readChunked (room : Option Nat) (bs : List UInt8) : Except BodyFault (List UInt8) :=
  (bs.foldl (ChunkReader.feed room) .start).finish

def readBody (room : Option Nat) (framing : Framing) (bs : List UInt8) :
    Except BodyFault (List UInt8) :=
  match framing with
  | .empty => .ok []
  | .length n => if bs.length < n then .error .cutShort else .ok (bs.take n)
  | .chunked => readChunked room bs
  | .untilClose => .ok bs

def crlf : List UInt8 := [0x0D, 0x0A]

def writeChunk (data : List UInt8) : List UInt8 :=
  utf8 (.ofList (Quoted.hexDigits data.length)) ++ crlf ++ data ++ crlf

def partsOf (n : Nat) : List UInt8 → List (List UInt8)
  | [] => []
  | b :: bs => (b :: bs.take n) :: partsOf n (bs.drop n)
termination_by bs => bs.length
decreasing_by
  simp only [List.length_drop, List.length_cons]
  omega

def writeChunked (n : Nat) (body : List UInt8) : List UInt8 :=
  (partsOf n body).flatMap writeChunk ++ utf8 "0\r\n\r\n"

end MapClient.Http
