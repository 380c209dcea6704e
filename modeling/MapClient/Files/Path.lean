import MapClient.Text.Pieces
import MapClient.Text.Utf8

/-!
# Paths

A path is the byte sequence that the system is given. Its steps are the names
between slashes; a single dot stays where it is and a double dot goes up.
-/

set_option autoImplicit false

namespace MapClient.Files

open MapClient.Text

abbrev Name := List UInt8

structure Path where
  bytes : List UInt8
  deriving DecidableEq, Repr

namespace Path

def slash : UInt8 := 0x2F

def here : Name := [0x2E]

def up : Name := [0x2E, 0x2E]

def ofText (s : String) : Path := ⟨utf8 s⟩

def shown (p : Path) : String := ofUtf8 p.bytes

def isRooted (p : Path) : Bool := p.bytes.head? == some slash

def endsInSlash (p : Path) : Bool := p.bytes.getLast? == some slash

def join (p q : Path) : Path :=
  if q.isRooted then q
  else if p.bytes.isEmpty || p.endsInSlash then ⟨p.bytes ++ q.bytes⟩
  else ⟨p.bytes ++ slash :: q.bytes⟩

def steps (p : Path) : List Name := (pieces (· == slash) p.bytes).filter fun n => !n.isEmpty

def stepsInto (p : Path) : List Name := p.steps ++ if p.endsInSlash then [here] else []

def joinSteps : List Name → List UInt8
  | [] => []
  | [n] => n
  | n :: ns => n ++ slash :: joinSteps ns

def ofSteps (rooted : Bool) (ns : List Name) : Path :=
  ⟨(if rooted then [slash] else []) ++ joinSteps ns⟩

def withEnding? (p : Path) (ending : String) : Option Path :=
  match (dropEnd (· == here) p.steps).reverse with
  | [] => none
  | n :: ns =>
    if n = up then none
    else some (ofSteps p.isRooted (ns.reverse ++ [n ++ utf8 ending]))

def plain (p : Path) : String :=
  (ofSteps p.isRooted (p.steps.filter (· != here))).shown

end Path

end MapClient.Files
