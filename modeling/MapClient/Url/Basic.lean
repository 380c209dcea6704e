import MapClient.Url.Ipv4
import MapClient.Url.Ipv6

/-!
# URLs

A parsed URL keeps its parts in their encoded form, so writing it is putting
the parts together.
-/

set_option autoImplicit false

namespace MapClient

namespace Url

inductive ParseError where
  | relative
  | emptyHost
  | invalidPort
  | invalidIpv4
  | invalidIpv6
  | invalidName
  | invalidHostCharacter
  deriving DecidableEq, Repr

def ParseError.message : ParseError → String
  | .relative => "relative URL without a base"
  | .emptyHost => "empty host"
  | .invalidPort => "invalid port number"
  | .invalidIpv4 => "invalid IPv4 address"
  | .invalidIpv6 => "invalid IPv6 address"
  | .invalidName => "invalid international domain name"
  | .invalidHostCharacter => "invalid domain character"

inductive Host where
  | name (text : List Char)
  | ipv4 (address : Nat)
  | ipv6 (numbers : List Nat)
  deriving DecidableEq, Repr

def Host.render : Host → List Char
  | .name text => text
  | .ipv4 address => Ipv4.render address
  | .ipv6 numbers => '[' :: Ipv6.render numbers ++ [']']

def Host.isEmpty (h : Host) : Bool := h == .name []

structure Authority where
  user : List Char
  password : List Char
  host : Host
  port : Option Nat
  deriving DecidableEq, Repr

inductive Path where
  | rooted (segments : List (List Char))
  | rootless (text : List Char)
  deriving DecidableEq, Repr

def Path.render : Path → List Char
  | .rooted segments => segments.flatMap ('/' :: ·)
  | .rootless text => text

inductive SchemeKind where
  | web
  | file
  | other
  deriving DecidableEq, Repr

def SchemeKind.isSpecial : SchemeKind → Bool
  | .other => false
  | _ => true

def webPorts : List (List Char × Nat) :=
  [("http".toList, 80), ("https".toList, 443), ("ws".toList, 80), ("wss".toList, 443),
    ("ftp".toList, 21)]

def defaultPort? (scheme : List Char) : Option Nat := webPorts.lookup scheme

def SchemeKind.of (scheme : List Char) : SchemeKind :=
  if (defaultPort? scheme).isSome then .web
  else if scheme = "file".toList then .file
  else .other

end Url

structure Url where
  scheme : List Char
  authority : Option Url.Authority
  path : Url.Path
  query : Option (List Char)
  fragment : Option (List Char)
  deriving DecidableEq, Repr

namespace Url

def Authority.renderUserInfo (a : Authority) : List Char :=
  if a.user = [] ∧ a.password = [] then []
  else a.user ++ (if a.password = [] then [] else ':' :: a.password) ++ ['@']

def Authority.renderHostPort (a : Authority) : List Char :=
  a.host.render ++ a.port.elim [] fun p => ':' :: (Nat.repr p).toList

/-- Keeps a path that begins with two slashes from being read as an
authority. -/
def rootMark (u : Url) : List Char :=
  match u.authority, u.path with
  | none, .rooted ([] :: _ :: _) => ['/', '.']
  | _, _ => []

def renderAuthority (u : Url) : List Char :=
  u.authority.elim u.rootMark fun a => '/' :: '/' :: a.renderUserInfo ++ a.renderHostPort

def renderQuery (u : Url) : List Char := u.query.elim [] ('?' :: ·)

def renderFragment (u : Url) : List Char := u.fragment.elim [] ('#' :: ·)

def toChars (u : Url) : List Char :=
  u.scheme ++ ':' :: u.renderAuthority ++ u.path.render ++ u.renderQuery ++ u.renderFragment

def render (u : Url) : String := .ofList u.toChars

def host? (u : Url) : Option Host :=
  (u.authority.map (·.host)).filter fun h => !h.isEmpty

def isHttp (u : Url) : Bool := u.scheme == "http".toList || u.scheme == "https".toList

def effectivePort? (u : Url) : Option Nat :=
  match u.authority.bind (·.port) with
  | some p => some p
  | none => defaultPort? u.scheme

end Url

end MapClient
