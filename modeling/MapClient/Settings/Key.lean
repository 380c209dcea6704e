import MapClient.Text.Pieces
import MapClient.Word

/-!
# Keys that name a place

A key names an entry of the top table and may go on from there, to an entry of
a table after a period or to an element of an array in brackets. An element may
be counted from the end. A key that is not written like this names the entry of
just that name.
-/

set_option autoImplicit false

namespace MapClient.Settings

inductive Step where
  | child (name : String)
  | element (index : Int)
  deriving DecidableEq, Repr

structure Key where
  root : String
  steps : List Step
  deriving DecidableEq, Repr

namespace Key

open MapClient.Text

def isDigit (c : Char) : Bool := '0' ≤ c && c ≤ '9'

def inName (c : Char) : Bool :=
  ('a' ≤ c && c ≤ 'z') || ('A' ≤ c && c ≤ 'Z') || isDigit c || c == ' ' || c == '_' || c == '-'

def isBlank (c : Char) : Bool := c == ' ' || c == '\t'

def name? (cs : List Char) : Option (String × List Char) :=
  match cs.span inName with
  | ([], _) => none
  | (name, rest) => some (.ofList name, rest)

def number (digits : List Char) : Nat := digits.foldl (fun n c => 10 * n + (c.toNat - 48)) 0

def index? (cs : List Char) : Option (Int × List Char) :=
  let (negative, cs) := match cs.dropWhile isBlank with
    | '-' :: cs => (true, cs)
    | cs => (false, cs)
  match cs.span isDigit with
  | ([], _) => none
  | (digits, rest) =>
    let n : Int := if negative then -number digits else number digits
    match rest.dropWhile isBlank with
    | ']' :: rest => (Word.signed? n).map (·, rest)
    | _ => none

def step? : List Char → Option (Step × List Char)
  | '.' :: cs => (name? cs).map fun r => (.child r.1, r.2)
  | '[' :: cs => (index? cs).map fun r => (.element r.1, r.2)
  | _ => none

def steps? : Nat → List Char → Option (List Step)
  | _, [] => some []
  | 0, _ :: _ => none
  | k + 1, cs => do
    let (step, rest) ← step? cs
    let steps ← steps? k rest
    some (step :: steps)

def parse? (text : String) : Option Key := do
  let (root, rest) ← name? text.toList
  let steps ← steps? rest.length rest
  some ⟨root, steps⟩

def ofText (text : String) : Key := (parse? text).getD ⟨text, []⟩

end Key

end MapClient.Settings
