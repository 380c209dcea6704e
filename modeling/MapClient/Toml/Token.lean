import MapClient.Text.Pieces
import MapClient.Text.Spans

/-!
# Words of a settings file

The text of a file is cut into blanks, line breaks, comments, signs, bare words
and quoted texts. Each word is the longest that can begin where the one before
it ended. A file with a character that begins no word is refused as a whole.
-/

set_option autoImplicit false

namespace MapClient.Toml

open MapClient.Text

inductive Token where
  | blank (text : List Char)
  | lineEnd
  | comment
  | equals
  | period
  | comma
  | colon
  | plus
  | leftBrace
  | rightBrace
  | leftBracket
  | rightBracket
  | bare (text : List Char)
  | quoted (text : List Char) (multiline : Bool)
  deriving DecidableEq, Repr

namespace Token

def isBlank (c : Char) : Bool := c == ' ' || c == '\t'

def isDigit (c : Char) : Bool := '0' ≤ c && c ≤ '9'

def isBare (c : Char) : Bool :=
  ('A' ≤ c && c ≤ 'Z') || ('a' ≤ c && c ≤ 'z') || isDigit c || c == '-' || c == '_'

def isShown (c : Char) : Bool := c == '\t' || 0x20 ≤ c.toNat

def isPlain (c : Char) : Bool := isShown c && c.toNat ≠ 0x7F

def foldLineEnds : List Char → List Char
  | '\r' :: '\n' :: cs => '\n' :: foldLineEnds cs
  | c :: cs => c :: foldLineEnds cs
  | [] => []

def hexNumber? (cs : List Char) : Option Nat :=
  cs.foldlM (fun n c => (hexValue? c).map (16 * n + ·)) 0

def charOf? (cs : List Char) : Option Char :=
  (hexNumber? cs).bind fun n =>
    if h : n.isValidChar then some (Char.ofNatAux n h) else none

def skipContinuation (cs : List Char) : Option (List Char) :=
  match cs.dropWhile isBlank with
  | [] => some []
  | '\n' :: rest => some (rest.dropWhile fun c => isBlank c || c == '\n')
  | _ => none

def escape (multiline : Bool) : List Char → Option (Option Char × List Char)
  | '\x22' :: cs => some (some '\x22', cs)
  | '\\' :: cs => some (some '\\', cs)
  | 'b' :: cs => some (some '\x08', cs)
  | 'f' :: cs => some (some '\x0c', cs)
  | 'n' :: cs => some (some '\n', cs)
  | 'r' :: cs => some (some '\r', cs)
  | 't' :: cs => some (some '\t', cs)
  | 'u' :: cs =>
    if 4 ≤ cs.length then (charOf? (cs.take 4)).map fun c => (some c, cs.drop 4) else none
  | 'U' :: cs =>
    if 8 ≤ cs.length then (charOf? (cs.take 8)).map fun c => (some c, cs.drop 8) else none
  | c :: cs =>
    if multiline && (isBlank c || c == '\n') then
      (skipContinuation (c :: cs)).map fun rest => (none, rest)
    else none
  | [] => none

/-- The quotes that end a multi-line text, of which up to two more belong to
it. -/
def closing? (quote : Char) : List Char → Option (List Char × List Char)
  | a :: b :: c :: cs =>
    if a = quote ∧ b = quote ∧ c = quote then
      match cs with
      | d :: e :: rest =>
        if d = quote ∧ e = quote then some ([quote, quote], rest)
        else if d = quote then some ([quote], e :: rest)
        else some ([], d :: e :: rest)
      | [d] => if d = quote then some ([quote], []) else some ([], [d])
      | [] => some ([], [])
    else none
  | _ => none

def readQuoted (quote : Char) (multiline : Bool) :
    Nat → List Char → Option (List Char × List Char)
  | 0, _ => none
  | _ + 1, [] => none
  | k + 1, c :: cs =>
    let go := fun (front : List Char) (rest : List Char) =>
      (readQuoted quote multiline k rest).map fun r => (front ++ r.1, r.2)
    if c = quote then
      if multiline then
        match closing? quote (c :: cs) with
        | some ended => some ended
        | none => go [c] cs
      else some ([], cs)
    else if c = '\\' ∧ quote = '\x22' then
      (escape multiline cs).bind fun e => go e.1.toList e.2
    else if isPlain c ∨ (multiline ∧ c = '\n') then go [c] cs
    else none

def afterQuote (quote : Char) (cs : List Char) : Option (Token × List Char) :=
  match cs with
  | a :: b :: rest =>
    if a = quote ∧ b = quote then
      let body := match rest with
        | '\n' :: rest => rest
        | rest => rest
      (readQuoted quote true (body.length + 1) body).map fun r => (.quoted r.1 true, r.2)
    else if a = quote then some (.quoted [] false, b :: rest)
    else (readQuoted quote false (cs.length + 1) cs).map fun r => (.quoted r.1 false, r.2)
  | [a] => if a = quote then some (.quoted [] false, []) else none
  | [] => none

def signs : List (Char × Token) :=
  [('\n', .lineEnd), ('=', .equals), ('.', .period), (',', .comma), (':', .colon), ('+', .plus),
    ('\x7b', .leftBrace), ('\x7d', .rightBrace), ('[', .leftBracket), (']', .rightBracket)]

def read (c : Char) (cs : List Char) : Option (Token × List Char) :=
  match signs.lookup c with
  | some sign => some (sign, cs)
  | none =>
    if isBlank c then some (.blank (c :: cs.takeWhile isBlank), cs.dropWhile isBlank)
    else if c = '#' then some (.comment, cs.dropWhile isShown)
    else if c = '\x22' ∨ c = '\x27' then afterQuote c cs
    else if isBare c then some (.bare (c :: cs.takeWhile isBare), cs.dropWhile isBare)
    else none

def readAll : Nat → List Token → List Char → Option (List Token)
  | _, out, [] => some out
  | 0, _, _ :: _ => none
  | k + 1, out, c :: cs => (read c cs).bind fun r => readAll k (r.1 :: out) r.2

def ofText? (text : String) : Option (List Token) :=
  let cs := match foldLineEnds text.toList with
    | '\ufeff' :: cs => cs
    | cs => cs
  (readAll (cs.length + 1) [] cs).map List.reverse

end Token

end MapClient.Toml
