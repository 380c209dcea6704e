import MapClient.Log.Event
import MapClient.Text.Blank

/-!
# Which events are logged

A filter is a list of directives. A plain directive sets the level up to which
events of the parts of the program that it names are logged, and the one that
names a part most closely decides. A directive on spans lets through what
happens in the spans it names, wherever it comes from. A span that no directive
lets through is left out of the lines of its events.
-/

set_option autoImplicit false

namespace MapClient.Log

open MapClient.Text

def Level.verbosity : Level → Nat
  | .error => 1
  | .warn => 2
  | .info => 3
  | .debug => 4
  | .trace => 5

structure Directive where
  level : Nat
  target : Option String
  span : Option String
  fields : List (String × Option String)
  deriving DecidableEq, Repr

abbrev Filter := List Directive

namespace Directive

def levelNames : List (String × Nat) :=
  [("", 1), ("off", 0), ("error", 1), ("warn", 2), ("info", 3), ("debug", 4), ("trace", 5)]

def levelNumber? (cs : List Char) : Option Nat :=
  let digits := match cs with
    | '+' :: cs => cs
    | cs => cs
  if digits.isEmpty || !digits.all Char.isDigit then none
  else
    let n := digits.foldl (fun n c => 10 * n + (c.toNat - 48)) 0
    if n ≤ 5 then some n else none

def level? (cs : List Char) : Option Nat :=
  (levelNumber? cs).or (levelNames.lookup (String.ofList (cs.map Char.toLower)))

def field? (cs : List Char) : Option (String × Option String) :=
  match pieces (· == '=') cs with
  | [] | [[]] => none
  | [name] => some (.ofList name, none)
  | name :: value :: _ => some (.ofList name, some (.ofList value))

inductive Part where
  | start
  | levelOrTarget
  | span (first : Nat)
  | field (first : Nat)
  | fields
  | target
  | level (first : Nat)

def isOpening (c : Char) : Bool :=
  c == '-' || c == ':' || c == '_' || c.isAlphanum || 0x80 ≤ c.toNat

def slice (text : List Char) (first last : Nat) : List Char := (text.take last).drop first

def step (text : List Char) (d : Directive) (part : Part) (i : Nat) (c : Char) :
    Option (Directive × Part) :=
  let read (first : Nat) : List Char := slice text first i
  match part, c with
  | .start, '[' => some (d, .span (i + 1))
  | .start, c => if isOpening c then some (d, .levelOrTarget) else none
  | .levelOrTarget, '=' => some ({ d with target := some (.ofList (read 0)) }, .level (i + 1))
  | .levelOrTarget, '[' => some ({ d with target := some (.ofList (read 0)) }, .span (i + 1))
  | .levelOrTarget, _ => some (d, part)
  | .target, '=' => some (d, .level (i + 1))
  | .span first, ']' => some ({ d with span := some (.ofList (read first)) }, .target)
  | .span first, '\x7b' =>
    let name := read first
    some ({ d with span := if name.isEmpty then none else some (.ofList name) }, .field (i + 1))
  | .span _, _ => some (d, part)
  | .field first, '\x7d' =>
    (field? (read first)).map fun f => ({ d with fields := d.fields ++ [f] }, .fields)
  | .field _, _ => some (d, part)
  | .fields, ']' => some (d, .target)
  | .level _, _ => some (d, part)
  | _, _ => none

def steps (text : List Char) :
    Directive → Part → Nat → List Char → Option (Directive × Part)
  | d, part, _, [] => some (d, part)
  | d, part, i, c :: cs => (step text d part i c).bind fun r => steps text r.1 r.2 (i + 1) cs

def finish (text : List Char) (d : Directive) : Part → Option Directive
  | .levelOrTarget =>
    match level? text with
    | some n => some { d with level := n }
    | none => some { d with target := some (.ofList text) }
  | .level first =>
    match text.drop first with
    | [] => some d
    | cs => (level? cs).map fun n => { d with level := n }
  | .target => some d
  | _ => none

def parse? (text : List Char) : Option Directive :=
  (steps text ⟨5, none, none, []⟩ .start 0 (strip isBlank text)).bind fun r =>
    finish text r.1 r.2

def covers (d : Directive) (target : String) : Bool := d.target.all fun t => t.isPrefixOf target

def isOnSpans (d : Directive) : Bool := d.span.isSome || !d.fields.isEmpty

def isPlain (d : Directive) : Bool := d.span.isNone && d.fields.all fun f => f.2.isNone

def closeness (d : Directive) : Nat × Nat :=
  (d.target.elim 0 fun t => t.utf8ByteSize + 1, d.fields.length)

def isCloser (d e : Directive) : Bool :=
  d.closeness.1 < e.closeness.1
    || (d.closeness.1 == e.closeness.1 && d.closeness.2 ≤ e.closeness.2)

def names (d : Directive) (s : Span) : Bool :=
  d.isOnSpans && d.covers s.target && d.span.all (· == s.name)
    && d.fields.all fun f => (s.fields.lookup f.1).isSome

def isOpen (d : Directive) : Bool := d.fields.any fun f => f.2.isNone

def fits (d : Directive) (s : Span) : Bool :=
  d.fields.all fun f => s.fields.lookup f.1 == f.2

end Directive

namespace Filter

def closest? (ds : List Directive) : Option Directive :=
  ds.foldl
    (fun best d => match best with
      | some b => if b.isCloser d then some d else best
      | none => some d)
    none

/-- Whether events or spans of a level are logged for what they are. Only of an
event are the fields known at that point. -/
def admitsPlain (f : Filter) (level : Level) (target : String) (fields : Option (List String)) :
    Bool :=
  let cares (d : Directive) : Bool :=
    d.isPlain && d.covers target && fields.all fun names => d.fields.all fun g => names.contains g.1
  (closest? (List.filter cares f)).any fun d => level.verbosity ≤ d.level

def levelWithin? (f : Filter) (s : Span) : Option Nat :=
  match List.filter (·.names s) f with
  | [] => none
  | ds =>
    let exact := (ds.filter fun d => !d.isOpen && d.fits s).map (·.level)
    let loose := (ds.filter (·.isOpen)).map (·.level)
    some ((exact.max?).getD (loose.max?.getD 0))

def admitsSpan (f : Filter) (s : Span) : Bool :=
  (f.levelWithin? s).isSome || f.admitsPlain s.level s.target none

def admits (f : Filter) (e : Event) : Bool :=
  e.spans.any (fun s => (f.levelWithin? s).any (e.level.verbosity ≤ ·))
    || f.admitsPlain e.level e.target (some ("message" :: e.fields.map (·.1)))

def apply (f : Filter) (e : Event) : Option Event :=
  if f.admits e then some { e with spans := e.spans.filter f.admitsSpan } else none

def parse? (text : String) : Option Filter :=
  ((pieces (· == ',') text.toList).filter fun p => !p.isEmpty).mapM Directive.parse?

def standard : Filter := [⟨3, some "client", none, []⟩, ⟨3, some "chunkform", none, []⟩]

def ofRequest (text : Option String) : Filter := (text.bind parse?).getD standard

end Filter

end MapClient.Log
