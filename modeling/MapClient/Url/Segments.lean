import MapClient.Url.Basic
import MapClient.Url.Percent

/-!
# Path segments

The text after the first slash of a path, cut at slashes. A segment of one dot
stands for nothing and one of two dots takes back the segment before it, so the
path that is left has neither. A segment that names a drive is never taken
back.
-/

set_option autoImplicit false

namespace MapClient.Url

open MapClient.Text

def endsSegment (special : Bool) (c : Char) : Bool := c == '/' || (special && c == '\\')

def dots? : List Char → Option Nat
  | [] => some 0
  | '.' :: cs => (dots? cs).map (· + 1)
  | '%' :: '2' :: 'e' :: cs | '%' :: '2' :: 'E' :: cs => (dots? cs).map (· + 1)
  | _ => none

def isLetter (c : Char) : Bool := ('a' ≤ c && c ≤ 'z') || ('A' ≤ c && c ≤ 'Z')

def isDrive : List Char → Bool
  | [c, d] => isLetter c && (d == ':' || d == '|')
  | _ => false

def takeBack : List (List Char) → List (List Char)
  | [] => []
  | s :: ss => if isDrive s then s :: ss else ss

def addSegment (path : List (List Char)) (isLast : Bool) (segment : List Char) :
    List (List Char) :=
  match dots? segment with
  | some 1 => if isLast then [] :: path else path
  | some 2 => if isLast then [] :: takeBack path else takeBack path
  | _ => segment :: path

def addSegments (path : List (List Char)) : List (List Char) → List (List Char)
  | [] => path
  | [s] => addSegment path true s
  | s :: ss => addSegments (addSegment path false s) ss

def settleDrive : List (List Char) → List (List Char)
  | s :: ss => (if isDrive s then [s.headD 'C', ':'] else s) :: ss
  | [] => []

def dropEmpty : List (List Char) → List (List Char)
  | [] :: s :: ss => dropEmpty (s :: ss)
  | ss => ss

def readSegments (kind : SchemeKind) (path : List (List Char)) (cs : List Char) :
    List (List Char) :=
  let encoded := (pieces (endsSegment kind.isSpecial) cs).map (encode inPath)
  let added := (addSegments path encoded).reverse
  if kind = .file then settleDrive (dropEmpty added) else added

end MapClient.Url
