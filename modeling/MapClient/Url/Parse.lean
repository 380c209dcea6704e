import MapClient.Url.Authority
import MapClient.Url.Segments

/-!
# Reading URLs

A text is a URL if it begins with a scheme and, where the scheme asks for one,
an authority. Line breaks and tabs do not count, nor do controls and spaces at
both ends; everything after the authority can be encoded, so it never fails.
-/

set_option autoImplicit false

namespace MapClient.Url

open MapClient.Text

def isEdge (c : Char) : Bool := c.toNat ≤ 0x20

def isBreak (c : Char) : Bool := c == '\t' || c == '\n' || c == '\r'

def clean (s : String) : List Char := (strip isEdge s.toList).filter fun c => !isBreak c

def lower (c : Char) : Char := if 'A' ≤ c ∧ c ≤ 'Z' then Char.ofNat (c.toNat + 32) else c

def inScheme (c : Char) : Bool :=
  isLetter c || ('0' ≤ c && c ≤ '9') || c == '+' || c == '-' || c == '.'

def scheme? (cs : List Char) : Option (List Char × List Char) :=
  match cut (· = ':') cs with
  | (name, some rest) =>
    if name.head?.any isLetter && name.all inScheme then some (name.map lower, rest) else none
  | (_, none) => none

def splitTail (cs : List Char) : List Char × Option (List Char) × Option (List Char) :=
  let (front, fragment) := cut (· = '#') cs
  let (path, query) := cut (· = '?') front
  (path, query, fragment)

def querySet (scheme : List Char) : EncodeSet :=
  if (SchemeKind.of scheme).isSpecial then inSpecialQuery else inQuery

def withTail (scheme : List Char) (authority : Option Authority) (path : Path)
    (query fragment : Option (List Char)) : Url :=
  ⟨scheme, authority, path, query.map (encode (querySet scheme)),
    fragment.map (encode inFragment)⟩

def pathAfterAuthority (kind : SchemeKind) : List Char → Path
  | [] => .rooted (if kind.isSpecial then [[]] else [])
  | c :: cs =>
    .rooted (readSegments kind [] (if endsSegment kind.isSpecial c then cs else c :: cs))

def readAfterSlashes (scheme cs : List Char) : Except ParseError Url := do
  let kind := SchemeKind.of scheme
  let (text, tail) := cs.span fun c => !endsAuthority kind.isSpecial c
  let (authority, left) ← readAuthority scheme text !tail.isEmpty
  let (path, query, fragment) := splitTail (left ++ tail)
  return withTail scheme (some authority) (pathAfterAuthority kind path) query fragment

def isSlash (c : Char) : Bool := c == '/' || c == '\\'

def emptyAuthority : Authority := ⟨[], [], .name [], none⟩

def readFileHost (cs : List Char) : Except ParseError Host :=
  if cs = [] then .ok (.name [])
  else (netHost cs).map fun h => if h = .name "localhost".toList then .name [] else h

def startsWithDrive : Path → Bool
  | .rooted (s :: _) => isDrive s
  | _ => false

def readFile (scheme cs : List Char) : Except ParseError Url := do
  let (path, query, fragment) := splitTail cs
  let (hostText, path) := match path with
    | a :: b :: rest =>
      if isSlash a && isSlash b then
        let (host, tail) := rest.span fun c => !isSlash c
        if isDrive host then ([], rest) else (host, tail)
      else ([], path)
    | _ => ([], path)
  let host ← readFileHost hostText
  let path := .rooted (readSegments .file [] path)
  let host := if startsWithDrive path then .name [] else host
  return withTail scheme (some { emptyAuthority with host := host }) path query fragment

def readOther (scheme cs : List Char) : Except ParseError Url :=
  match after? ['/', '/'] cs with
  | some rest => readAfterSlashes scheme rest
  | none =>
    let (path, query, fragment) := splitTail cs
    let path := match path with
      | '/' :: rest => .rooted (readSegments .other [] rest)
      | _ => .rootless (encode inControls path)
    .ok (withTail scheme none path query fragment)

def readAfterScheme (scheme rest : List Char) : Except ParseError Url :=
  match SchemeKind.of scheme with
  | .web => readAfterSlashes scheme (rest.dropWhile isSlash)
  | .file => readFile scheme rest
  | .other => readOther scheme rest

def parse (s : String) : Except ParseError Url :=
  match scheme? (clean s) with
  | none => .error .relative
  | some (scheme, rest) => readAfterScheme scheme rest

def segmentsOf : Path → List (List Char)
  | .rooted segments => segments
  | .rootless _ => []

def relativeTo (base : Url) (cs : List Char) : Except ParseError Url :=
  let (path, query, fragment) := splitTail cs
  let onPath := fun path => .ok (withTail base.scheme base.authority path query fragment)
  match path with
  | [] =>
    let kept := { withTail base.scheme base.authority base.path query fragment with
      query := match query with
        | none => base.query
        | some q => some (encode (querySet base.scheme) q) }
    .ok kept
  | c :: rest =>
    let kind := SchemeKind.of base.scheme
    if isSlash c then
      if rest.head?.any isSlash then
        readAfterSlashes base.scheme ((after? ['/', '/'] cs).getD (cs.dropWhile isSlash))
      else onPath (.rooted (readSegments kind [] rest))
    else onPath (.rooted (readSegments kind (segmentsOf base.path).dropLast.reverse path))

/-- What a reference means at a web URL. One with a scheme stands for itself,
except that the scheme of the base without two slashes adds nothing. -/
def resolve (base : Url) (reference : String) : Except ParseError Url :=
  let cs := clean reference
  match scheme? cs with
  | none => relativeTo base cs
  | some (scheme, rest) =>
    if scheme = base.scheme ∧ (rest.takeWhile isSlash).length < 2 then relativeTo base rest
    else readAfterScheme scheme rest

end MapClient.Url
