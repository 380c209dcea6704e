import MapClient.Http.Fault
import MapClient.Url.Basic

/-!
# Failures of requests

Why a request ended without a response. Each failure names its own cause last,
so its text is the texts of its causes from the outside in. The URL named is
the one whose request failed; a body that ends too early is no longer tied to
one.
-/

set_option autoImplicit false

namespace MapClient.Transport

open MapClient.Http

inductive Failure where
  | malformedUrl (fault : Url.ParseError)
  | refusedScheme (url : String)
  | untargetable (url : String)
  | unconnected (url : String) (fault : ConnectFault)
  | unanswered (url : String) (fault : HeadFault)
  | tooManyRedirects (url : String)
  | partialBody (fault : BodyFault)
  deriving DecidableEq, Repr

inductive Flag where
  | body
  | builder
  | connect
  | redirect
  | request
  deriving DecidableEq, Repr

def Flag.name : Flag → String
  | .body => "body"
  | .builder => "builder"
  | .connect => "connect"
  | .redirect => "redirect"
  | .request => "request"

namespace Failure

def flags : Failure → List Flag
  | .malformedUrl _ | .refusedScheme _ | .untargetable _ => [.builder]
  | .unconnected .. => [.connect, .request]
  | .unanswered .. => [.request]
  | .tooManyRedirects _ => [.redirect]
  | .partialBody _ => [.body]

def steps : Failure → List String
  | .malformedUrl fault => ["builder error", fault.message]
  | .refusedScheme url =>
    ["builder error for url (" ++ url ++ ")", "URL scheme is not allowed"]
  | .untargetable url =>
    ["builder error for url (" ++ url ++ ")", "Parsed Url is not a valid Uri"]
  | .unconnected url fault =>
    ["error sending request for url (" ++ url ++ ")", "error trying to connect",
      "tcp connect error", fault.message]
  | .unanswered url fault =>
    ["error sending request for url (" ++ url ++ ")", fault.message]
  | .tooManyRedirects url =>
    ["error following redirect for url (" ++ url ++ ")", "too many redirects"]
  | .partialBody fault =>
    ["request or response body error", "error reading a body from connection", fault.message]

def chain : List String → List String
  | [] => []
  | [step] => [step]
  | step :: steps => (step ++ ": " ++ (chain steps).headD "") :: chain steps

def causes (f : Failure) : List String := chain f.steps

def message (f : Failure) : String := f.causes.headD ""

end Failure

end MapClient.Transport
