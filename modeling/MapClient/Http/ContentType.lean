import MapClient.Http.Body
import MapClient.Text.Encoding

/-!
# Content types

A type, a subtype and parameters, of which only the one that names the encoding
of a text matters. A value that is not written as it should be names none.
-/

set_option autoImplicit false

namespace MapClient.Http

open MapClient.Text

namespace ContentType

def isTokenChar (c : Char) : Bool := c.toNat < 0x80 && isTokenByte (UInt8.ofNat c.toNat)

def isQuotedChar (c : Char) : Bool := 0x1F < c.toNat && c.toNat ≠ 0x7F

def afterQuote (cs : List Char) : Option (List Char) :=
  match cs.dropWhile (· = ' ') with
  | [] => some []
  | ';' :: rest => some rest
  | _ => none

def quotedValue (cs : List Char) : Option (List Char × List Char) :=
  let (front, rest) := match cs with
    | '\x22' :: cs => (['\x22'], cs)
    | _ => ([], cs)
  let (value, rest) := rest.span (· ≠ '\x22')
  match rest with
  | _ :: rest =>
    if value.all isQuotedChar then (afterQuote rest).map fun rest => (front ++ value, rest)
    else none
  | [] => none

def value : List Char → Option (List Char × List Char)
  | '\x22' :: cs => quotedValue cs
  | cs =>
    match cs.span isTokenChar with
    | (value, []) => some (value, [])
    | (value, c :: rest) => if c = ';' ∧ value ≠ [] then some (value, rest) else none

def parameter (cs : List Char) : Option ((List Char × List Char) × List Char) :=
  match (cs.dropWhile (· = ' ')).span isTokenChar with
  | (name, '=' :: rest) =>
    if name = [] then none else (value rest).map fun v => ((name, v.1), v.2)
  | _ => none

def parameters : Nat → List Char → Option (List (List Char × List Char))
  | 0, _ => some []
  | k + 1, cs =>
    if cs.all (· = ' ') then some []
    else (parameter cs).bind fun p => (parameters k p.2).map (p.1 :: ·)

def parametersOf? (text : List Char) : Option (List (List Char × List Char)) :=
  match text.span isTokenChar with
  | (main, '/' :: rest) =>
    if main = [] then none
    else
      match rest.span isTokenChar with
      | (_, []) => some []
      | (sub, ';' :: rest) => if sub = [] then none else parameters (rest.length + 1) rest
      | _ => none
  | _ => none

def charset? (value : List UInt8) : Option (List Char) := do
  let parameters ← parametersOf? (← asciiText? value)
  let found ← parameters.find? fun p => p.1.map lowerAscii == "charset".toList
  return found.2

def encoding (values : List (List UInt8)) : Encoding :=
  ((values.head?.bind charset?).bind Encoding.ofLabel?).getD .utf8

end ContentType

end MapClient.Http
