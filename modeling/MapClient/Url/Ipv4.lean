import MapClient.Text.Pieces
import MapClient.Text.Spans

/-!
# IPv4 addresses

One to four numbers between dots, each decimal, octal after `0`, or
hexadecimal after `0x`. The last number fills all bytes that the others leave,
and a dot may follow it. A host name whose last label is a number is an address
or nothing.
-/

set_option autoImplicit false

namespace MapClient.Url.Ipv4

open MapClient.Text

def digitBelow? (radix : Nat) (c : Char) : Option Nat :=
  (hexValue? c).filter (· < radix)

def number? (radix : Nat) (cs : List Char) : Option Nat :=
  cs.foldlM (fun n c => (digitBelow? radix c).map (radix * n + ·)) 0

def part? : List Char → Option Nat
  | [] => none
  | ['0'] => some 0
  | '0' :: 'x' :: cs | '0' :: 'X' :: cs => number? 16 cs
  | '0' :: cs => number? 8 cs
  | cs => number? 10 cs

def parts (host : List Char) : List (List Char) :=
  let ps := pieces (· = '.') host
  if ps.getLast? = some [] ∧ 1 < ps.length then ps.dropLast else ps

def isDigit (c : Char) : Bool := '0' ≤ c && c ≤ '9'

def claimedBy (host : List Char) : Bool :=
  match (parts host).getLast? with
  | none => false
  | some last => (!last.isEmpty && last.all isDigit) || (part? last).isSome

def ofNumbers? (ns : List Nat) : Option Nat :=
  match ns.reverse with
  | [] => none
  | last :: rest =>
    if ns.length ≤ 4 ∧ (rest.all (· < 256)) ∧ last < Nat.pow 256 (5 - ns.length) then
      some (rest.reverse.foldl (fun a n => 256 * a + n) 0 * Nat.pow 256 (5 - ns.length) + last)
    else none

def parse? (host : List Char) : Option Nat :=
  ((parts host).mapM part?).bind ofNumbers?

def byte (address i : Nat) : Nat := address / Nat.pow 256 i % 256

def render (address : Nat) : List Char :=
  (Nat.repr (byte address 3)).toList ++ '.' :: (Nat.repr (byte address 2)).toList
    ++ '.' :: (Nat.repr (byte address 1)).toList ++ '.' :: (Nat.repr (byte address 0)).toList

end MapClient.Url.Ipv4
