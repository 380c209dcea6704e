import MapClient.Text.Quoted

/-!
# Log lines

An event is written on one line: its level, the spans it happened in, the part
of the program that reports it, the message, and the fields. Only the values
of span fields are quoted.
-/

set_option autoImplicit false

namespace MapClient.Log

open MapClient.Text

inductive Level where
  | trace
  | debug
  | info
  | warn
  | error
  deriving DecidableEq, Repr

def Level.column : Level → String
  | .trace => "TRACE"
  | .debug => "DEBUG"
  | .info => " INFO"
  | .warn => " WARN"
  | .error => "ERROR"

structure Span where
  name : String
  target : String
  level : Level
  fields : List (String × String)
  deriving DecidableEq, Repr

structure Event where
  level : Level
  target : String
  spans : List Span
  message : String
  fields : List (String × String)
  deriving DecidableEq, Repr

def joinBlank : List String → String
  | [] => ""
  | [s] => s
  | s :: ss => s ++ " " ++ joinBlank ss

def Span.render (s : Span) : String :=
  s.name ++
    match s.fields with
    | [] => ""
    | fields => "\x7b" ++ joinBlank (fields.map fun f => f.1 ++ "=" ++ quote f.2) ++ "\x7d"

def joinColon : List String → String
  | [] => ""
  | s :: ss => s ++ ":" ++ joinColon ss

def renderFields (fields : List (String × String)) : String :=
  fields.foldl (fun text f => text ++ " " ++ f.1 ++ "=" ++ f.2) ""

def Event.render (e : Event) : String :=
  e.level.column ++ " "
    ++ (match e.spans with
      | [] => ""
      | spans => joinColon (spans.map Span.render) ++ " ")
    ++ e.target ++ ": " ++ e.message ++ renderFields e.fields

end MapClient.Log
