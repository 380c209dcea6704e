import MapClient.Http.Status
import MapClient.Instant
import MapClient.Log.Event
import MapClient.Text.Blank
import MapClient.Transport.Failure
import MapClient.Word

/-!
# Outcomes

Every request ends in one outcome: a response was loaded, whatever its status,
or an error kept it from being loaded. An outcome names the URL that was asked
for and the two instants between which it was decided.
-/

set_option autoImplicit false

namespace MapClient

open MapClient.Text

inductive SubmitError where
  | noRuntime
  | transport (failure : Transport.Failure)
  deriving DecidableEq, Repr

namespace SubmitError

def message : SubmitError → String
  | .noRuntime => "No tokio runtime is available to dispatch requests on"
  | .transport failure => "Request could not be completed: " ++ failure.message

def causes (e : SubmitError) : List String :=
  e.message :: match e with
    | .noRuntime => []
    | .transport failure => failure.causes

end SubmitError

inductive Ending where
  | load (status : Http.Status) (body : String)
  | error (error : SubmitError)
  deriving DecidableEq, Repr

structure Outcome where
  url : String
  ending : Ending
  dispatchedAt : Instant
  completedAt : Instant
  deriving DecidableEq, Repr

namespace Outcome

def isLoad (o : Outcome) : Bool :=
  match o.ending with
  | .load .. => true
  | .error _ => false

def isError (o : Outcome) : Bool := !o.isLoad

def elapsed (o : Outcome) : Int := o.dispatchedAt.nanosTo o.completedAt

def elapsedNanos? (o : Outcome) : Option Int := Word.signed? o.elapsed

def elapsedMillis (o : Outcome) : Int := Instant.wholeMillis o.elapsed

def bodyLine (body : String) : String :=
  if body.isEmpty then "" else "\n" ++ trimEnd body

def display (o : Outcome) : String :=
  match o.ending with
  | .load status body => "load: " ++ o.url ++ " " ++ status.render ++ bodyLine body
  | .error error => "error: " ++ o.url ++ " " ++ error.message

def reportTarget : String := "chunkform::api::response"

def report (o : Outcome) : Log.Event :=
  let millis := ("elapsed_ms", toString o.elapsedMillis)
  match o.ending with
  | .load status _ =>
    ⟨.info, reportTarget, [], "request loaded",
      [("url", o.url), ("status", status.render), millis]⟩
  | .error error =>
    ⟨.warn, reportTarget, [], "request failed",
      [("url", o.url), ("error", error.message), millis]⟩

end Outcome

end MapClient
