import MapClient.Url.Basic

/-!
# URLs that a request can name

The first line of a request is stricter than a URL: its authority may hold only
the characters of old host names, and its length is limited. A URL outside
these limits is parsed, but nothing can be sent to it.
-/

set_option autoImplicit false

namespace MapClient.Url

def inAuthority (c : Char) : Bool :=
  ('a' ≤ c && c ≤ 'z') || ('A' ≤ c && c ≤ 'Z') || ('0' ≤ c && c ≤ '9')
    || "!$&'()*+,-.;=_~".contains c

structure AuthorityScan where
  colons : Nat
  percent : Bool
  opened : Bool
  closed : Bool
  atEnd : Bool

def AuthorityScan.start : AuthorityScan := ⟨0, false, false, false, false⟩

def AuthorityScan.step (a : AuthorityScan) (c : Char) : Option AuthorityScan :=
  let a := { a with atEnd := c == '@' }
  if c = ':' then if a.colons < 8 then some { a with colons := a.colons + 1 } else none
  else if c = '[' then if a.percent || a.opened then none else some { a with opened := true }
  else if c = ']' then
    if a.opened && !a.closed then some { a with closed := true, colons := 0, percent := false }
    else none
  else if c = '@' then some { a with colons := 0, percent := false }
  else if c = '%' then some { a with percent := true }
  else if inAuthority c then some a
  else none

def AuthorityScan.accepts (a : AuthorityScan) : Bool :=
  a.opened == a.closed && a.colons ≤ 1 && !a.percent && !a.atEnd

def authorityAccepted (cs : List Char) : Bool :=
  (cs.foldlM AuthorityScan.step .start).any AuthorityScan.accepts

def lengthLimit : Nat := 65534

/-- Whether a request can name the URL. One without an authority can be named
only where all of it could be one. -/
def isTarget (u : Url) : Bool :=
  u.toChars.length ≤ lengthLimit &&
    match u.authority with
    | some a =>
      !a.host.isEmpty && u.scheme.length ≤ 64
        && authorityAccepted (a.renderUserInfo ++ a.renderHostPort)
    | none => authorityAccepted u.toChars

end MapClient.Url
