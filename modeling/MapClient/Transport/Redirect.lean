import MapClient.Http.Head
import MapClient.Transport.Request

/-!
# Redirects

Some statuses ask for another request, whose URL the response names. Only a
request without a form is repeated as it was; all others become requests for
a document. A response that names no URL a request can go to is an answer like
any other.
-/

set_option autoImplicit false

namespace MapClient.Transport

open MapClient.Http MapClient.Text

def redirectLimit : Nat := 9

def asksElsewhere (request : Request) (status : Status) : Bool :=
  status.seesOther || (status.repeatsElsewhere && request.payload.isNone)

def location? (request : Request) (head : Head) : Option Url := do
  let text ← ofUtf8? (← (head.values "location").head?)
  let url ← (request.url.resolve text).toOption
  if url.isTarget then some url else none

def refererOf (u : Url) : String :=
  let bare := u.authority.map fun a => { a with user := [], password := [] }
  { u with authority := bare, fragment := none }.render

def sameServer (a b : Url) : Bool :=
  a.host? == b.host? && a.effectivePort? == b.effectivePort?

def hidesReferer (current next : Url) : Bool :=
  current.scheme == "https".toList && next.scheme == "http".toList

def Request.follow (r : Request) (url : Url) : Request where
  url := url
  agent := r.agent
  credentials := if sameServer r.url url then r.credentials else none
  referer := if hidesReferer r.url url then r.referer else some (refererOf r.url)
  payload := none

def redirection? (client : Client) (request : Request) (head : Head) : Option Url :=
  if client.followsRedirects && asksElsewhere request head.status then location? request head
  else none

end MapClient.Transport
