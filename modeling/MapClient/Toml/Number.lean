import MapClient.Decimal.Shortest
import MapClient.Toml.Token
import MapClient.Word

/-!
# Numbers in a settings file

Whole numbers of 64 bits in four radices, and decimal numbers, which stand for
the nearest number of 53 bits. An underscore may stand between two digits, and
a decimal number has no zeros in front.
-/

set_option autoImplicit false

namespace MapClient.Toml

inductive Real where
  | finite (negative : Bool) (size : Decimal.Binary)
  | infinite (negative : Bool)
  | undefined
  deriving DecidableEq, Repr

def Real.render : Real → String
  | .finite negative size => (if negative then "-" else "") ++ size.render
  | .infinite negative => if negative then "-inf" else "inf"
  | .undefined => "NaN"

namespace Number

open MapClient.Text

structure Scan where
  digits : List Char
  first : Bool
  zeroFirst : Bool
  underscore : Bool

def scan (isDigit : Char → Bool) (zeros : Bool) (s : Scan) :
    List Char → Option (Scan × List Char)
  | [] => some (s, [])
  | c :: cs =>
    if c = '0' ∧ s.first then
      scan isDigit zeros { s with digits := c :: s.digits, first := false, zeroFirst := true } cs
    else if isDigit c then
      if !s.first && s.zeroFirst && !zeros then none
      else
        scan isDigit zeros
          { s with digits := c :: s.digits, first := false, underscore := false } cs
    else if c = '_' then
      if s.first then none
      else if s.underscore then some (s, c :: cs)
      else scan isDigit zeros { s with underscore := true } cs
    else some (s, c :: cs)

def digits? (isDigit : Char → Bool) (zeros : Bool) (cs : List Char) :
    Option (List Char × List Char) :=
  (scan isDigit zeros ⟨[], true, false, false⟩ cs).bind fun r =>
    if r.1.first || r.1.underscore then none else some (r.1.digits.reverse, r.2)

def sign : List Char → Bool × List Char
  | '-' :: cs => (true, cs)
  | '+' :: cs => (false, cs)
  | cs => (false, cs)

def inRadix (radix : Nat) (c : Char) : Bool := (hexValue? c).any (· < radix)

def valueIn (radix : Nat) (digits : List Char) : Nat :=
  digits.foldl (fun n c => radix * n + (hexValue? c).getD 0) 0

def word? (negative : Bool) (n : Nat) : Option Int :=
  Word.signed? (if negative then -n else n)

def inRadix? (radix : Nat) (cs : List Char) : Option Int :=
  match digits? (inRadix radix) true cs with
  | some (digits, []) => word? false (valueIn radix digits)
  | _ => none

def integer? (cs : List Char) : Option Int :=
  match sign cs with
  | (negative, cs) =>
    match digits? Token.isDigit false cs with
    | some (digits, []) => word? negative (valueIn 10 digits)
    | _ => none

def real? (negative : Bool) (whole fraction : List Char) (exponent : Int) : Option Real :=
  (Decimal.Binary.ofDecimal? (valueIn 10 (whole ++ fraction)) (exponent - fraction.length)).map
    (.finite negative)

def isExponentMark (c : Char) : Bool := c == 'e' || c == 'E'

def exponent? (signed : Bool) (cs : List Char) : Option Int :=
  let (negative, cs) := if signed then sign cs else (false, cs)
  match digits? Token.isDigit true cs with
  | some (digits, []) =>
    let n : Int := valueIn 10 digits
    some (if negative then -n else n)
  | _ => none

def splitExponent? : List Token → Option (List Char × List Token)
  | .plus :: .bare cs :: rest | .bare cs :: rest => some (cs, rest)
  | _ => none

def finish (negative : Bool) (whole fraction suffix : List Char) (rest : List Token) :
    Option (Real × List Token) :=
  match suffix with
  | [] => (real? negative whole fraction 0).map (·, rest)
  | [c] =>
    if isExponentMark c then do
      let (cs, rest) ← splitExponent? rest
      let e ← exponent? false cs
      let r ← real? negative whole fraction e
      some (r, rest)
    else none
  | c :: cs =>
    if isExponentMark c then do
      let e ← exponent? true cs
      let r ← real? negative whole fraction e
      some (r, rest)
    else none

def withoutPoint (cs : List Char) (rest : List Token) : Option (Real × List Token) :=
  match sign cs with
  | (negative, cs) => do
    let (whole, suffix) ← digits? Token.isDigit false cs
    finish negative whole [] suffix rest

def withPoint (cs after : List Char) (rest : List Token) : Option (Real × List Token) :=
  match sign cs with
  | (negative, cs) =>
    match digits? Token.isDigit false cs with
    | some (whole, []) => do
      let (fraction, suffix) ← digits? Token.isDigit true after
      finish negative whole fraction suffix rest
    | _ => none

end Number

end MapClient.Toml
