import MapClient.Http.ContentType
import MapClient.Task
import MapClient.Transport.Redirect

/-!
# Exchanges

A request is sent and, while the answers ask for it, followed by others. The
exchange ends with a response, whose body is read whole and decoded, or with a
failure. Only a complete response counts.
-/

set_option autoImplicit false

namespace MapClient.Transport

open MapClient.Http MapClient.Text

structure Answer where
  head : Head
  framing : Framing
  rest : List UInt8

def readAnswer (reader : Reader) (request : Request) : Reply → Except Failure Answer
  | .error fault => .error (.unconnected request.url.render fault)
  | .ok bytes =>
    match Head.readFinal reader.headRoom (bytes.length + 1) bytes with
    | .error fault => .error (.unanswered request.url.render fault)
    | .ok (head, rest) =>
      match framing head with
      | .error fault => .error (.unanswered request.url.render fault)
      | .ok framing => .ok ⟨head, framing, rest⟩

structure Response where
  status : Status
  body : String
  deriving DecidableEq, Repr

def Answer.load (reader : Reader) (a : Answer) : Except Failure Response :=
  match readBody reader.extensionRoom a.framing a.rest with
  | .error fault => .error (.partialBody fault)
  | .ok bytes =>
    .ok ⟨a.head.status,
      (ContentType.encoding (a.head.values "content-type")).decodeMarked reader.multiByte bytes⟩

def isWhole (reader : Reader) (request : Request) (bytes : List UInt8) : Bool :=
  match readAnswer reader request (.ok bytes) with
  | .error _ => false
  | .ok a =>
    a.framing != .untilClose && (readBody reader.extensionRoom a.framing a.rest).toOption.isSome

def exchange (client : Client) : Nat → Request → Task (Except Failure Response)
  | redirects, request =>
    .ask request fun reply =>
      match readAnswer client.reader request reply with
      | .error failure => .done (.error failure)
      | .ok answer =>
        match redirection? client request answer.head with
        | none => .done (answer.load client.reader)
        | some url =>
          match redirects with
          | 0 => .done (.error (.tooManyRedirects request.url.render))
          | redirects + 1 =>
            if url.isHttp then exchange client redirects (request.follow url)
            else .done (.error (.refusedScheme url.render))

def perform (client : Client) : Except Failure Request → Task (Except Failure Response)
  | .error failure => .done (.error failure)
  | .ok request => exchange client redirectLimit request

end MapClient.Transport
