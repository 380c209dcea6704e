import MapClient.Http.Body

/-!
# Writing responses

The responses of a backend: a head with given headers, and a body whose end is
announced, or not, in one of the ways that a reader understands.
-/

set_option autoImplicit false

namespace MapClient.Http

open MapClient.Text

inductive Delivery where
  | declared (length : Nat)
  | untilClose
  | chunked (size : Nat) (terminated : Bool)
  deriving DecidableEq, Repr

structure Sent where
  status : Nat
  reason : List UInt8
  headers : List (List UInt8 × List UInt8)
  body : List UInt8
  delivery : Delivery

namespace Sent

def headerLine (name value : List UInt8) : List UInt8 := name ++ utf8 ": " ++ value ++ crlf

def deliveryHeader : Delivery → List UInt8
  | .declared length => headerLine (utf8 "content-length") (utf8 (Nat.repr length))
  | .untilClose => []
  | .chunked .. => headerLine (utf8 "transfer-encoding") (utf8 "chunked")

def deliver (body : List UInt8) : Delivery → List UInt8
  | .declared _ | .untilClose => body
  | .chunked size true => writeChunked (size - 1) body
  | .chunked size false => (partsOf (size - 1) body).flatMap writeChunk

def statusLine (s : Sent) : List UInt8 :=
  utf8 "HTTP/1.1 " ++ utf8 (Nat.repr s.status) ++ utf8 " " ++ s.reason ++ crlf

def bytes (s : Sent) : List UInt8 :=
  s.statusLine ++ s.headers.flatMap (fun h => headerLine h.1 h.2)
    ++ deliveryHeader s.delivery ++ crlf ++ deliver s.body s.delivery

end Sent

end MapClient.Http
