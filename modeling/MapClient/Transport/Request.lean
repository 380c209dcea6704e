import MapClient.Form
import MapClient.Text.Base64
import MapClient.Transport.Failure
import MapClient.Transport.Reader
import MapClient.Url.Parse
import MapClient.Url.Target

/-!
# Requests

What is sent for a URL. The user and password of the URL become credentials and
leave it; a form is sent once, and a request that follows another has none.
-/

set_option autoImplicit false

namespace MapClient.Transport

open MapClient.Text

structure Client where
  followsRedirects : Bool := true
  agent : Option String := none
  [reader : Reader]

inductive Method where
  | get
  | post
  deriving DecidableEq, Repr

def Method.name : Method → String
  | .get => "GET"
  | .post => "POST"

structure Payload where
  contentType : String
  bytes : List UInt8
  deriving DecidableEq, Repr

structure Request where
  url : Url
  agent : Option String
  credentials : Option String
  referer : Option String
  payload : Option Payload
  deriving DecidableEq, Repr

namespace Request

def method (r : Request) : Method := if r.payload.isSome then .post else .get

def target (r : Request) : String := .ofList (r.url.path.render ++ r.url.renderQuery)

def host (r : Request) : String := .ofList (r.url.authority.elim [] (·.renderHostPort))

def body (r : Request) : List UInt8 := r.payload.elim [] (·.bytes)

def header (name : String) (value : Option String) : List (String × String) :=
  value.toList.map fun v => (name, v)

def headers (r : Request) : List (String × String) :=
  [("accept", "*/*")]
    ++ header "authorization" r.credentials
    ++ header "content-length" (r.payload.map fun p => Nat.repr p.bytes.length)
    ++ header "content-type" (r.payload.map (·.contentType))
    ++ [("host", r.host)]
    ++ header "referer" r.referer
    ++ header "user-agent" r.agent

def encode (r : Request) : List UInt8 :=
  let line := r.method.name ++ " " ++ r.target ++ " HTTP/1.1\r\n"
  let lines := r.headers.map fun h => h.1 ++ ": " ++ h.2 ++ "\r\n"
  utf8 (line ++ String.join lines ++ "\r\n") ++ r.body

end Request

def basicCredentials (user : String) (password : Option String) : String :=
  "Basic " ++ .ofList (Base64.encode (utf8 (user ++ ":" ++ password.getD "")))

def decodedText? (cs : List Char) : Option String := ofUtf8? (Url.decode cs)

/-- The user and the password of an authority, if they can be sent. A password
that is not text is left out; without a user it is not taken either. -/
def userInfo? (a : Url.Authority) : Option (String × Option String) := do
  let user ← decodedText? a.user
  let password := if a.password = [] then none else decodedText? a.password
  if user.isEmpty && password.isNone then none else some (user, password)

def takeCredentials (u : Url) : Url × Option String :=
  match u.authority with
  | none => (u, none)
  | some a =>
    match userInfo? a with
    | none => (u, none)
    | some (user, password) =>
      ({ u with authority := some { a with user := [], password := [] } },
        some (basicCredentials user password))

def prepare (client : Client) (text : String) (payload : Option Payload) :
    Except Failure Request :=
  match Url.parse text with
  | .error fault => .error (.malformedUrl fault)
  | .ok full =>
    if full.host? = none then .error (.refusedScheme full.render)
    else
      let (url, credentials) := takeCredentials full
      if !url.isHttp then .error (.refusedScheme url.render)
      else if !url.isTarget then .error (.untargetable url.render)
      else .ok ⟨url, client.agent, credentials, none, payload⟩

end MapClient.Transport
