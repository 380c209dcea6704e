import MapClient.Toml.Date
import MapClient.Toml.Number

/-!
# Values in a settings file

Texts, numbers, truth values, dates, and arrays and tables of values. A table
that a dotted key made is open: another dotted key may add to it.
-/

set_option autoImplicit false

namespace MapClient.Toml

inductive Value where
  | text (s : String)
  | integer (n : Int)
  | real (r : Real)
  | boolean (b : Bool)
  | date (d : Date)
  | array (vs : List Value)
  | table (isOpen : Bool) (entries : List (String × Value))

abbrev Entries := List (String × Value)

def addDotted (v : Value) : List String → Entries → Option Entries
  | [], _ => none
  | [k], es => some (es ++ [(k, v)])
  | k :: ks, es =>
    match es.span fun e => e.1 != k with
    | (_, []) => (addDotted v ks []).map fun inner => es ++ [(k, .table true inner)]
    | (front, (_, .table true inner) :: back) =>
      (addDotted v ks inner).map fun inner => front ++ (k, .table true inner) :: back
    | _ => none

def distinctKeys : Entries → Bool
  | [] => true
  | e :: es => !(es.any (·.1 == e.1)) && distinctKeys es

mutual

def Value.isSound : Value → Bool
  | .array vs => soundAll vs
  | .table _ es => distinctKeys es && soundEntries es
  | _ => true

def soundAll : List Value → Bool
  | [] => true
  | v :: vs => v.isSound && soundAll vs

def soundEntries : Entries → Bool
  | [] => true
  | (_, v) :: es => v.isSound && soundEntries es

end

namespace Reading

def dropBlank : List Token → List Token
  | .blank _ :: ts => ts
  | ts => ts

def dropLines : List Token → List Token
  | .blank _ :: ts | .comment :: ts | .lineEnd :: ts => dropLines ts
  | ts => ts

def endLine (ts : List Token) : Option (List Token) :=
  match dropBlank ts with
  | [] | [.comment] => some []
  | .lineEnd :: ts | .comment :: .lineEnd :: ts => some ts
  | _ => none

def key : List Token → Option (String × List Token)
  | .bare cs :: ts | .quoted cs false :: ts => some (.ofList cs, ts)
  | _ => none

def moreKeys : Nat → List Token → Option (List String × List Token)
  | 0, _ => none
  | k + 1, ts =>
    match dropBlank ts with
    | .period :: ts => do
      let (first, ts) ← key (dropBlank ts)
      let (rest, ts) ← moreKeys k ts
      some (first :: rest, ts)
    | ts => some ([], ts)

def dottedKey (ts : List Token) : Option (List String × List Token) := do
  let (first, rest) ← key ts
  let (more, rest) ← moreKeys (ts.length + 1) rest
  some (first :: more, rest)

def keyAndSign (ts : List Token) : Option (List String × List Token) := do
  let (keys, rest) ← dottedKey ts
  match rest with
  | .equals :: rest => some (keys, dropBlank rest)
  | _ => none

def signed? (sign : Token) (char : Char) : List Token → Option (List Char × List Token)
  | [] => some ([], [])
  | t :: ts =>
    if t = sign then
      match ts with
      | .bare cs :: ts => some (char :: cs, ts)
      | _ => none
    else some ([], t :: ts)

def timeTail : List Token → Option (List Char × List Token)
  | .bare minute :: .colon :: .bare second :: ts => do
    let (fraction, ts) ← signed? .period '.' ts
    let (offset, ts) ← signed? .plus '+' ts
    let (offsetMinute, ts) ← signed? .colon ':' ts
    some (minute ++ ':' :: second ++ fraction ++ offset ++ offsetMinute, ts)
  | _ => none

def dateText (word : List Char) (colonRead : Bool) (ts : List Token) :
    Option (List Char × List Token) :=
  let (front, ts) := match ts with
    | .blank [' '] :: .bare hour :: ts => (word ++ ' ' :: hour, ts)
    | ts => (word, ts)
  match colonRead, ts with
  | true, ts | false, .colon :: ts =>
    (timeTail ts).map fun r => (front ++ ':' :: r.1, r.2)
  | false, ts => some (front, ts)

def date (word : List Char) (colonRead : Bool) (ts : List Token) :
    Option (Value × List Token) :=
  (dateText word colonRead ts).bind fun r => (Date.ofChars? r.1).map fun d => (.date d, r.2)

def number (word : List Char) (ts : List Token) : Option (Value × List Token) :=
  match word with
  | '0' :: 'x' :: cs => (Number.inRadix? 16 cs).map fun n => (.integer n, ts)
  | '0' :: 'o' :: cs => (Number.inRadix? 8 cs).map fun n => (.integer n, ts)
  | '0' :: 'b' :: cs => (Number.inRadix? 2 cs).map fun n => (.integer n, ts)
  | word =>
    if word.any Number.isExponentMark then
      (Number.withoutPoint word ts).map fun r => (.real r.1, r.2)
    else
      match ts with
      | .period :: .bare after :: ts =>
        (Number.withPoint word after ts).map fun r => (.real r.1, r.2)
      | .period :: _ => none
      | ts =>
        if word = "inf".toList then some (.real (.infinite false), ts)
        else if word = "-inf".toList then some (.real (.infinite true), ts)
        else if word = "nan".toList ∨ word = "-nan".toList then some (.real .undefined, ts)
        else (Number.integer? word).map fun n => (.integer n, ts)

def hasPair (a b : Char) (cs : List Char) : Bool := (cs.zip cs.tail).contains (a, b)

def beginsDate (word : List Char) : Bool :=
  word.contains 'T' || word.contains 't'
    || (word.tail.contains '-' && !hasPair 'e' '-' word && !hasPair 'E' '-' word)

def numberOrDate (word : List Char) (ts : List Token) : Option (Value × List Token) :=
  if beginsDate word then date word false ts
  else
    match ts with
    | .colon :: ts => date word true ts
    | ts => number word ts

def bareValue (word : List Char) (ts : List Token) : Option (Value × List Token) :=
  if word = "true".toList then some (.boolean true, ts)
  else if word = "false".toList then some (.boolean false, ts)
  else if word = "inf".toList ∨ word = "nan".toList
      ∨ word.head?.any (fun c => c == '-' || Token.isDigit c) then
    numberOrDate word ts
  else none

mutual

def value : Nat → List Token → Option (Value × List Token)
  | 0, _ => none
  | k + 1, ts =>
    match ts with
    | .quoted cs _ :: ts => some (.text (.ofList cs), ts)
    | .bare word :: ts => bareValue word ts
    | .plus :: .bare word :: ts => number word ts
    | .leftBracket :: ts => (elements k ts).map fun r => (.array r.1, r.2)
    | .leftBrace :: ts =>
      match dropBlank ts with
      | .rightBrace :: ts => some (.table false [], ts)
      | ts => (pairs k [] ts).map fun r => (.table false r.1, r.2)
    | _ => none

def elements : Nat → List Token → Option (List Value × List Token)
  | 0, _ => none
  | k + 1, ts =>
    match dropLines ts with
    | .rightBracket :: ts => some ([], ts)
    | ts => do
      let (v, ts) ← value k ts
      match dropLines ts with
      | .comma :: ts =>
        let (vs, ts) ← elements k ts
        some (v :: vs, ts)
      | .rightBracket :: ts => some ([v], ts)
      | _ => none

def pairs : Nat → Entries → List Token → Option (Entries × List Token)
  | 0, _, _ => none
  | k + 1, es, ts => do
    let (keys, ts) ← keyAndSign ts
    let (v, ts) ← value k ts
    let es ← addDotted v keys es
    match dropBlank ts with
    | .rightBrace :: ts => some (es, ts)
    | .comma :: ts => pairs k es (dropBlank ts)
    | _ => none

end

end Reading

end MapClient.Toml
