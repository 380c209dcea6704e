import MapClient.Domain.Ascii
import MapClient.Url.Basic
import MapClient.Url.Percent

/-!
# The authority of a URL

The part between the two slashes and the path: an optional user and password
up to the last `@`, the host, and an optional port. A name is decoded before it
is read as an international host name, so an encoded letter is the letter.
-/

set_option autoImplicit false

namespace MapClient.Url

open MapClient.Text

def endsAuthority (special : Bool) (c : Char) : Bool :=
  c == '/' || c == '?' || c == '#' || (special && c == '\\')

def splitUserInfo (cs : List Char) : Option (List Char) × List Char :=
  let back := cs.reverse
  match back.dropWhile (· ≠ '@') with
  | [] => (none, cs)
  | _ :: info => (some info.reverse, (back.takeWhile (· ≠ '@')).reverse)

def userAndPassword (info : List Char) : List Char × List Char :=
  let (user, password) := cut (· = ':') info
  (encode inUserInfo user, encode inUserInfo (password.getD []))

def splitPort (inside : Bool) : List Char → List Char × Option (List Char)
  | [] => ([], none)
  | c :: cs =>
    if c = ':' ∧ !inside then ([], some cs)
    else
      let inside := if c = '[' then true else if c = ']' then false else inside
      (c :: (splitPort inside cs).1, (splitPort inside cs).2)

def bracketed? (host : List Char) : Option (Except ParseError Host) :=
  match host with
  | '[' :: cs =>
    if cs.getLast? = some ']' then
      some ((Ipv6.parse? cs.dropLast).elim (.error .invalidIpv6) (.ok <| .ipv6 ·))
    else some (.error .invalidIpv6)
  | _ => none

def netHost (host : List Char) : Except ParseError Host :=
  (bracketed? host).getD <|
    match (Utf8.decode? (decode host)).bind Domain.toAscii? with
    | none => .error .invalidName
    | some [] => .error .emptyHost
    | some name =>
      if Ipv4.claimedBy name then
        (Ipv4.parse? name).elim (.error .invalidIpv4) (.ok <| .ipv4 ·)
      else .ok (.name name)

def refusedInHost (c : Char) : Bool :=
  "\x00\t\n\r #/:<>?@[\\]^|".contains c

def plainHost (host : List Char) : Except ParseError Host :=
  (bracketed? host).getD <|
    if host.any refusedInHost then .error .invalidHostCharacter
    else .ok (.name (encode inControls host))

def readHost (kind : SchemeKind) (cs : List Char) : Except ParseError Host :=
  if kind.isSpecial then (if cs = [] then .error .emptyHost else netHost cs)
  else plainHost cs

def portLimit : Nat := 65535

def portDigits (port : Nat) (seen : Bool) :
    List Char → Except ParseError (Option Nat × List Char)
  | [] => .ok (if seen then some port else none, [])
  | c :: cs =>
    if '0' ≤ c ∧ c ≤ '9' then
      let port := 10 * port + (c.toNat - 48)
      if port ≤ portLimit then portDigits port true cs else .error .invalidPort
    else if c = '\\' then .ok (if seen then some port else none, c :: cs)
    else .error .invalidPort

def readPort (scheme : List Char) (cs : List Char) :
    Except ParseError (Option Nat × List Char) := do
  let (port, rest) ← portDigits 0 false cs
  return (if port = defaultPort? scheme then none else port, rest)

def readAuthority (scheme : List Char) (cs : List Char) (pathFollows : Bool) :
    Except ParseError (Authority × List Char) := do
  let kind := SchemeKind.of scheme
  let (info, hostPort) := splitUserInfo cs
  if info = some [] ∧ hostPort = [] ∧ pathFollows then throw .emptyHost
  let (user, password) := userAndPassword (info.getD [])
  let (hostText, portText) := splitPort false hostPort
  let host ← readHost kind hostText
  if host.isEmpty ∧ portText.isSome then throw .emptyHost
  let (port, rest) ← portText.elim (.ok (none, [])) (readPort scheme)
  if host.isEmpty ∧ (user ≠ [] ∨ password ≠ []) then throw .emptyHost
  return (⟨user, password, host, port⟩, rest)

end MapClient.Url
