import MapClient.Outcome
import MapClient.Record
import MapClient.Transport.Exchange

/-!
# Submitting records

A submitter sends records to the endpoints below a base URL and asks for what
they hold. The slashes at the end of the base do not count. Every operation
comes to one outcome and says in the log what it does and how that ended.
-/

set_option autoImplicit false

namespace MapClient

open MapClient.Text MapClient.Transport

structure Submitter where
  client : Client
  base : String

inductive Operation where
  | submit (record : Record)
  | fetch (path : String)
  deriving DecidableEq, Repr

namespace Operation

def list (c : Collection) : Operation := .fetch c.path

def path : Operation → String
  | .submit record => record.path
  | .fetch path => path

def logTarget : String := "chunkform::api"

def span : Operation → Log.Span
  | .submit _ => ⟨"submit", logTarget, .info, []⟩
  | .fetch path => ⟨"fetch", logTarget, .info, [("path", path)]⟩

def event (o : Operation) (level : Log.Level) (message : String) : Log.Event :=
  ⟨level, logTarget, [o.span], message, []⟩

def beginning (o : Operation) (url : String) : Log.Event :=
  o.event .debug <|
    match o with
    | .submit _ => "submitting form to " ++ quote url
    | .fetch _ => "fetching " ++ quote url

def conclusion (o : Operation) (url : String) : Ending → Log.Event
  | .load status _ => o.event .debug ("received " ++ status.render ++ " from " ++ quote url)
  | .error error =>
    o.event .warn ("request to " ++ quote url ++ " failed: " ++ error.message)

end Operation

def endingOf : Except Failure Response → Ending
  | .ok response => .load response.status response.body
  | .error failure => .error (.transport failure)

namespace Submitter

def trimSlashes (s : String) : String := .ofList (dropEnd (· = '/') s.toList)

def ofBase (client : Client) (base : String) : Submitter := ⟨client, trimSlashes base⟩

def endpoint (s : Submitter) (path : String) : String := s.base ++ path

def payload : Operation → Task (Option Payload)
  | .fetch _ => .done none
  | .submit record => do
    let boundary ← Task.freshBoundary
    return some ⟨Form.contentType boundary, Form.encode boundary record.fields⟩

def perform (s : Submitter) (o : Operation) : Task Outcome := do
  let url := s.endpoint o.path
  Task.write (o.beginning url)
  let payload ← payload o
  let dispatchedAt ← Task.time
  let result ← Transport.perform s.client (prepare s.client url payload)
  let ending := endingOf result
  Task.write (o.conclusion url ending)
  let completedAt ← Task.time
  return ⟨url, ending, dispatchedAt, completedAt⟩

end Submitter

end MapClient
