import MapClient.Files.Path
import MapClient.Submitter
import MapClient.Text.Utf8

/-!
# The arguments of a command

A command line names a command and its operands. Two flags with a value may
stand anywhere, before the command and after it, and a value given after it
wins. An argument that begins with a dash is a flag, unless it follows two
dashes that stand alone. Flags and operands take effect in the order in which
they are given, each when the next one is met, so the first mistake is the one
that is reported.
-/

set_option autoImplicit false

namespace MapClient.CommandLine

open MapClient.Text

abbrev Argument := List UInt8

inductive Verb where
  | addServer
  | addDimension
  | listServers
  | listDimensions
  deriving DecidableEq, Repr

namespace Verb

def all : List Verb := [.addServer, .addDimension, .listServers, .listDimensions]

def name : Verb → String
  | .addServer => "add-server"
  | .addDimension => "add-dimension"
  | .listServers => "list-servers"
  | .listDimensions => "list-dimensions"

def operands : Verb → List String
  | .addServer => ["NAME", "IP"]
  | .addDimension => ["NAME", "ALIAS", "SERVER"]
  | .listServers | .listDimensions => []

def arity (v : Verb) : Nat := v.operands.length

def ofArgument? (a : Argument) : Option Verb := all.find? fun v => utf8 v.name == a

def operation? : Verb → List String → Option Operation
  | .addServer, [name, ip] => some (.submit (.server name ip))
  | .addDimension, [name, label, server] => some (.submit (.dimension name label server))
  | .listServers, [] => some (.list .servers)
  | .listDimensions, [] => some (.list .dimensions)
  | _, _ => none

end Verb

inductive Flag where
  | baseUrl
  | config
  deriving DecidableEq, Repr

namespace Flag

def name : Flag → String
  | .baseUrl => "base-url"
  | .config => "config"

def shown : Flag → String
  | .baseUrl => "--base-url <BASE_URL>"
  | .config => "--config <CONFIG>"

end Flag

inductive Topic where
  | program
  | verb (v : Verb)
  | help
  deriving DecidableEq, Repr

inductive Mistake where
  | unexpected (argument : String)
  | unknownVerb (argument : String)
  | missingValue (flag : Flag)
  | repeatedFlag (flag : Flag)
  | needlessValue (value flag : String)
  | missingOperands
  | brokenText
  | missingVerb
  | blank
  deriving DecidableEq, Repr

inductive Stop where
  | help (topic : Topic)
  | version
  | mistake (m : Mistake)
  deriving DecidableEq, Repr

/-- What was met last and has not taken effect: a flag that may still lack its
value, or an operand. -/
inductive Pending where
  | flag (flag : Flag) (value : Option Argument)
  | operand (value : Argument)
  deriving DecidableEq, Repr

structure Read where
  baseUrl : Option String
  config : Option Files.Path
  operands : List String
  pending : Option Pending
  literal : Bool
  deriving DecidableEq, Repr

namespace Read

def blank : Read := ⟨none, none, [], none, false⟩

def text (a : Argument) : Except Stop String :=
  match ofUtf8? a with
  | some s => .ok s
  | none => .error (.mistake .brokenText)

def give (r : Read) : Flag → Argument → Except Stop Read
  | .baseUrl, a =>
    if r.baseUrl.isSome then .error (.mistake (.repeatedFlag .baseUrl))
    else (text a).map fun s => { r with baseUrl := some s }
  | .config, a =>
    if r.config.isSome then .error (.mistake (.repeatedFlag .config))
    else if a.isEmpty then .error (.mistake (.missingValue .config))
    else .ok { r with config := some ⟨a⟩ }

def settle (r : Read) : Except Stop Read :=
  let settled := { r with pending := none }
  match r.pending with
  | none => .ok settled
  | some (.flag f none) => .error (.mistake (.missingValue f))
  | some (.flag f (some a)) => settled.give f a
  | some (.operand a) => (text a).map fun s => { settled with operands := r.operands ++ [s] }

def waiting? (r : Read) : Option Flag :=
  match r.pending with
  | some (.flag f none) => some f
  | _ => none

def operandCount (r : Read) : Nat :=
  match r.pending with
  | some (.operand _) => r.operands.length + 1
  | _ => r.operands.length

end Read

inductive Shape where
  | dashes
  | long (name : Argument) (value : Option Argument)
  | short (letters : Argument)
  | plain
  deriving DecidableEq, Repr

def dash : UInt8 := 0x2D

def equalsSign : UInt8 := 0x3D

def Shape.of : Argument → Shape
  | [0x2D, 0x2D] => .dashes
  | 0x2D :: 0x2D :: a =>
    let parts := cut (· == equalsSign) a
    .long parts.1 parts.2
  | 0x2D :: b :: a => .short (b :: a)
  | _ => .plain

def letter (topic : Topic) (c : Char) : Option Stop :=
  if c = 'h' then some (.help topic)
  else if c = 'V' ∧ topic = .program then some .version
  else none

def readShort (topic : Topic) (r : Read) (letters : Argument) : Stop :=
  match Utf8.scan letters with
  | some c :: _ =>
    match letter topic c with
    | some stop =>
      match r.settle with
      | .ok _ => stop
      | .error earlier => earlier
    | none => .mistake (.unexpected (String.ofList ['-', c]))
  | _ => .mistake (.unexpected ("-" ++ ofUtf8 letters))

def word (topic : Topic) (name : Argument) : Option Stop :=
  if name = utf8 "help" then some (.help topic)
  else if name = utf8 "version" ∧ topic = .program then some .version
  else none

def readLong (topic : Topic) (r : Read) (name : Argument) (value : Option Argument) :
    Except Stop Read :=
  match [Flag.baseUrl, Flag.config].find? fun f => utf8 f.name == name with
  | some f => do
    let r ← r.settle
    match value with
    | some a => r.give f a
    | none => return { r with pending := some (.flag f none) }
  | none =>
    match word topic name, value with
    | some _, some a => .error (.mistake (.needlessValue (ofUtf8 a) ("--" ++ ofUtf8 name)))
    | some stop, none => r.settle.bind fun _ => .error stop
    | none, _ => .error (.mistake (.unexpected ("--" ++ ofUtf8 name)))

def readFlag (topic : Topic) (r : Read) (a : Argument) : Except Stop (Option Read) :=
  if r.literal then .ok none
  else
    match Shape.of a with
    | .dashes => .ok (some { r with literal := true })
    | .long name value => (readLong topic r name value).map some
    | .short letters => .error (readShort topic r letters)
    | .plain => .ok (r.waiting?.map fun f => { r with pending := some (.flag f (some a)) })

def readOperand (v : Verb) (r : Read) (a : Argument) : Except Stop Read :=
  if r.operandCount < v.arity then
    r.settle.map fun r => { r with pending := some (.operand a) }
  else .error (.mistake (.unexpected (ofUtf8 a)))

def readAfterVerb (v : Verb) : Read → List Argument → Except Stop Read
  | r, [] => r.settle
  | r, a :: as => do
    match ← readFlag (.verb v) r a with
    | some r => readAfterVerb v r as
    | none => readAfterVerb v (← readOperand v r a) as

def helpOn : List Argument → Stop
  | [] => .help .program
  | a :: as =>
    let topic := match Verb.ofArgument? a with
      | some v => some (.verb v)
      | none => if a = utf8 "help" then some .help else none
    match topic, as with
    | none, _ => .mistake (.unknownVerb (ofUtf8 a))
    | some topic, [] => .help topic
    | some _, b :: _ => .mistake (.unknownVerb (ofUtf8 b))

structure Invocation where
  operation : Operation
  baseUrl : Option String
  config : Option Files.Path
  deriving DecidableEq, Repr

def readVerb (v : Verb) (r : Read) (as : List Argument) : Except Stop Invocation := do
  let inner ← readAfterVerb v .blank as
  match v.operation? inner.operands with
  | none => .error (.mistake .missingOperands)
  | some operation =>
    let outer ← r.settle
    return ⟨operation, inner.baseUrl.or outer.baseUrl, inner.config.or outer.config⟩

def refuseVerb (r : Read) (a : Argument) : Stop :=
  if r.literal ∧ ((Verb.ofArgument? a).isSome ∨ a = utf8 "help") then
    .mistake (.unexpected (ofUtf8 a))
  else .mistake (.unknownVerb (ofUtf8 a))

def readFrom : Read → List Argument → Except Stop Invocation
  | r, [] => do
    let r ← r.settle
    let given := r.baseUrl.isSome || r.config.isSome
    .error (.mistake (if given then .missingVerb else .blank))
  | r, a :: as => do
    match ← readFlag .program r a with
    | some r => readFrom r as
    | none =>
      match if r.literal then none else Verb.ofArgument? a with
      | some v => readVerb v r as
      | none =>
        if !r.literal && a == utf8 "help" then .error (helpOn as) else .error (refuseVerb r a)

def Invocation.ofArguments (as : List Argument) : Except Stop Invocation := readFrom .blank as
end MapClient.CommandLine
