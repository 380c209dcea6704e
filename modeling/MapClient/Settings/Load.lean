import MapClient.Files.Storage
import MapClient.Settings.Merge
import MapClient.Settings.Places
import MapClient.Text.Quoted
import MapClient.Toml.Document
import MapClient.Url.Parse

/-!
# Loading settings

The base URL has a default. A file, the variables and a base URL that is given
outright are added in this order, each winning over what came before. A file
that is not there or is no text counts for nothing, but the rules of its
language always hold. Only what comes of it all is checked.
-/

set_option autoImplicit false

namespace MapClient

open MapClient.Files MapClient.Text

structure Settings where
  baseUrl : String
  logDirectory : Option String
  deriving DecidableEq, Repr

namespace Settings

inductive Shape where
  | array
  | table
  deriving DecidableEq, Repr

def Shape.name : Shape → String
  | .array => "sequence"
  | .table => "map"

/-- Why settings cannot be loaded. The last two break the program off. -/
inductive Fault where
  | brokenFile (path : String)
  | missing (key : String)
  | wrongShape (shape : Shape) (key : String) (origin : Option String)
  | invalidBaseUrl (text : String)
  | noPlace
  | brokenVariable
  deriving DecidableEq, Repr

namespace Fault

def breaksOff : Fault → Bool
  | .noPlace | .brokenVariable => true
  | _ => false

def reason : Fault → String
  | .brokenFile path => "<toml> in " ++ path
  | .missing key => "missing field \x60" ++ key ++ "\x60"
  | .wrongShape shape key origin =>
    "invalid type: " ++ shape.name ++ ", expected a string for key \x60" ++ key ++ "\x60"
      ++ origin.elim "" (" in " ++ ·)
  | .invalidBaseUrl text =>
    "Invalid base url " ++ quote text ++ ", expected an absolute http or https url"
  | .noPlace => "index out of range"
  | .brokenVariable => "variable is no text"

def causes (f : Fault) : List String :=
  match f with
  | .invalidBaseUrl _ => [f.reason]
  | _ => ["Failed to load configuration: " ++ f.reason, f.reason]

def message (f : Fault) : String := f.causes.headD ""

end Fault

def baseUrlKey : String := "base_url"

def logDirectoryKey : String := "log_directory"

def defaultBaseUrl : String := "http://localhost:8080"

def hasHost (u : Url) : Bool := u.authority.any fun a => !a.host.isEmpty

def isBaseUrl (s : String) : Bool :=
  match Url.parse s with
  | .ok u => u.isHttp && hasHost u
  | .error _ => false

def validate (s : Settings) : Except Fault Unit :=
  if isBaseUrl s.baseUrl then .ok () else .error (.invalidBaseUrl s.baseUrl)

structure Source where
  path : Path
  text : Option String

def Source.of? (path : Path) : Content → Option Source
  | .absent => none
  | .unreadable => some ⟨path, none⟩
  | .bytes content => some ⟨path, ofUtf8? content⟩

def candidates (path : Path) : List Path := path :: (path.withEnding? ".toml").toList

def findSource (read : Path → Content) (path : Path) : Option Source :=
  (candidates path).findSome? fun p => Source.of? p (read p)

def Source.settings (s : Source) : Except Fault (List (String × Node)) :=
  match s.text with
  | none => .ok []
  | some text =>
    match Toml.parse? text with
    | some entries => .ok (Node.ofEntries s.path.plain entries)
    | none => .error (.brokenFile s.path.plain)

def fileSettings (read : Path → Content) (path : Path) : Except Fault (List (String × Node)) :=
  match findSource read path with
  | none => .ok []
  | some source => source.settings

def orFault {α : Type} (fault : Fault) : Option α → Except Fault α
  | none => .error fault
  | some a => .ok a

def defaults : Table := [(baseUrlKey, .text defaultBaseUrl)]

def gather [Capacity] (file : List (String × Node)) (env : Environment)
    (baseUrl : Option String) : Except Fault Table := do
  let table ← orFault .noPlace (defaults.merge file)
  let given ← orFault .brokenVariable env.settings?
  let table ← orFault .noPlace (table.merge given)
  return baseUrl.elim table fun s => table.assign baseUrlKey (.text s)

def textAt (t : Table) (key : String) : Except Fault (Option String) :=
  match t.get? key with
  | none | some .nothing => .ok none
  | some (.text s) => .ok (some s)
  | some (.array origin _) => .error (.wrongShape .array key origin)
  | some (.table _) => .error (.wrongShape .table key none)

def ofTable (t : Table) : Except Fault Settings := do
  let baseUrl ← textAt t baseUrlKey
  let baseUrl ← orFault (.missing baseUrlKey) baseUrl
  let logDirectory ← textAt t logDirectoryKey
  return ⟨baseUrl, logDirectory⟩

def load [Capacity] (read : Path → Content) (env : Environment) (path : Path)
    (baseUrl : Option String) : Except Fault Settings := do
  let file ← fileSettings read path
  let table ← gather file env baseUrl
  let settings ← ofTable table
  settings.validate
  return settings

def logPath? (s : Settings) (env : Environment) : Option Path :=
  match s.logDirectory with
  | some path => some (.ofText path)
  | none => defaultLogDirectory? env

end Settings

end MapClient
