import MapClient.Text.Pieces

/-!
# Dates and times

A day, a time of day, or both, and then a distance from universal time. They
are checked digit by digit and written in one way: with a capital letter
between day and time, and no zeros at the end of a second's fraction.
-/

set_option autoImplicit false

namespace MapClient.Toml

structure Day where
  year : Nat
  month : Nat
  day : Nat
  deriving DecidableEq, Repr

structure Clock where
  hour : Nat
  minute : Nat
  second : Nat
  nano : Nat
  deriving DecidableEq, Repr

inductive Offset where
  | universal
  | custom (hours : Int) (minutes : Nat)
  deriving DecidableEq, Repr

structure Date where
  day : Option Day
  clock : Option Clock
  offset : Option Offset
  deriving DecidableEq, Repr

namespace Date

def digit? (c : Char) : Option Nat :=
  if '0' ≤ c ∧ c ≤ '9' then some (c.toNat - 48) else none

def number : Nat → Nat → List Char → Option (Nat × List Char)
  | 0, n, cs => some (n, cs)
  | _ + 1, _, [] => none
  | k + 1, n, c :: cs => (digit? c).bind fun d => number k (10 * n + d) cs

def expect (c : Char) (cs : List Char) : Option (List Char) := Text.after? [c] cs

def readDay (cs : List Char) : Option (Day × List Char) := do
  let (year, cs) ← number 4 0 cs
  let (month, cs) ← number 2 0 (← expect '-' cs)
  let (day, cs) ← number 2 0 (← expect '-' cs)
  if 1 ≤ month ∧ month ≤ 12 ∧ 1 ≤ day ∧ day ≤ 31 then some (⟨year, month, day⟩, cs) else none

def nanosOf (digits : List Char) : Nat :=
  (digits.take 9 ++ List.replicate (9 - digits.length) '0').foldl
    (fun n c => 10 * n + (c.toNat - 48)) 0

def readFraction (cs : List Char) : Option (Nat × List Char) :=
  match cs with
  | '.' :: cs =>
    let (digits, rest) := cs.span fun c => '0' ≤ c && c ≤ '9'
    if digits = [] then none else some (nanosOf digits, rest)
  | cs => some (0, cs)

def readClock (cs : List Char) : Option (Clock × List Char) := do
  let (hour, cs) ← number 2 0 cs
  let (minute, cs) ← number 2 0 (← expect ':' cs)
  let (second, cs) ← number 2 0 (← expect ':' cs)
  let (nano, cs) ← readFraction cs
  if hour ≤ 24 ∧ minute ≤ 59 ∧ second ≤ 59 then some (⟨hour, minute, second, nano⟩, cs)
  else none

def readCustom (sign : Int) (cs : List Char) : Option Offset := do
  let (hours, cs) ← number 2 0 cs
  let (minutes, cs) ← number 2 0 (← expect ':' cs)
  if cs = [] then some (.custom (sign * hours) minutes) else none

def readOffset : List Char → Option (Option Offset)
  | [] => some none
  | ['Z'] | ['z'] => some (some .universal)
  | '+' :: cs => (readCustom 1 cs).map some
  | '-' :: cs => (readCustom (-1) cs).map some
  | _ => none

def ofChars? (cs : List Char) : Option Date :=
  if cs[2]? = some ':' then do
    let (clock, rest) ← readClock cs
    if rest = [] then some ⟨none, some clock, none⟩ else none
  else do
    let (day, rest) ← readDay cs
    match rest with
    | [] => some ⟨some day, none, none⟩
    | c :: rest =>
      if c = 'T' ∨ c = 't' ∨ c = ' ' then
        let (clock, rest) ← readClock rest
        let offset ← readOffset rest
        some ⟨some day, some clock, offset⟩
      else none

def padded (width n : Nat) : String :=
  let ds := Nat.toDigits 10 n
  .ofList (List.replicate (width - ds.length) '0' ++ ds)

def renderDay (d : Day) : String :=
  padded 4 d.year ++ "-" ++ padded 2 d.month ++ "-" ++ padded 2 d.day

def renderFraction (nano : Nat) : String :=
  if nano = 0 then "" else "." ++ .ofList (Text.dropEnd (· = '0') (padded 9 nano).toList)

def renderClock (c : Clock) : String :=
  padded 2 c.hour ++ ":" ++ padded 2 c.minute ++ ":" ++ padded 2 c.second ++ renderFraction c.nano

def renderOffset : Offset → String
  | .universal => "Z"
  | .custom hours minutes =>
    (if hours < 0 then "-" else "+") ++ padded 2 hours.natAbs ++ ":" ++ padded 2 minutes

def render (d : Date) : String :=
  d.day.elim "" renderDay
    ++ (if d.day.isSome ∧ d.clock.isSome then "T" else "")
    ++ d.clock.elim "" renderClock
    ++ d.offset.elim "" renderOffset

end Date

end MapClient.Toml
