import MapClient.CommandLine.Help
import MapClient.Files.Tree
import MapClient.Log.Filter
import MapClient.Settings.Load

/-!
# Running a command

The settings come first, then the log, and only when both are in order is
anything sent. Whatever response comes is a success; the run fails where there
is none. What was logged is added to the log file, which is kept from one run
to the next.
-/

set_option autoImplicit false

namespace MapClient.CommandLine

open MapClient.Files MapClient.Text

structure Exit where
  status : Nat
  output : String
  errors : String
  deriving DecidableEq, Repr

namespace Exit

def indented (width : Nat) (s : String) : String :=
  s.replace "\n" ("\n" ++ "".pushn ' ' width)

def numberedFrom (n : Nat) : List String → String
  | [] => ""
  | cause :: causes =>
    let number := toString n
    "\n" ++ "".pushn ' ' (5 - number.length) ++ number ++ ": " ++ indented 7 cause
      ++ numberedFrom (n + 1) causes

def explain (failure : String) (causes : List String) : String :=
  "Error: " ++ failure ++
    (match causes with
      | [] => ""
      | [cause] => "\n\nCaused by:\n    " ++ indented 4 cause
      | causes => "\n\nCaused by:" ++ numberedFrom 0 causes)
    ++ "\n"

def failed (output failure : String) (causes : List String) : Exit :=
  ⟨1, output, explain failure causes⟩

def broken : Exit := ⟨101, "", ""⟩

def ofStop : Stop → Exit
  | .help topic => ⟨0, Help.render topic, ""⟩
  | .version => ⟨0, versionLine ++ "\n", ""⟩
  | .mistake m => ⟨2, "", m.message ++ "\n"⟩

def ofFault (f : Settings.Fault) : Exit :=
  if f.breaksOff then broken else failed "" "failed to load config" f.causes

def homeless (kind : String) : String := "Failed to find the local " ++ kind ++ " path"

def ofOutcome (o : Outcome) : Exit :=
  let output := o.display ++ "\n"
  match o.ending with
  | .load .. => ⟨0, output, ""⟩
  | .error error => failed output "request failed" error.causes

end Exit

structure Plan where
  operation : Operation
  settings : Settings
  logDirectory : Path
  filter : Log.Filter

namespace Plan

def settingsFile (i : Invocation) (env : Settings.Environment) : Except Exit Path :=
  match i.config.or (Settings.defaultFile? env) with
  | some path => .ok path
  | none =>
    .error (.failed "" "couldn't find the config file path" [Exit.homeless "config"])

def pathsAsked (env : Settings.Environment) (arguments : List Argument) : List Path :=
  match (Invocation.ofArguments arguments).toOption with
  | none => []
  | some i => (settingsFile i env).toOption.elim [] Settings.candidates

def make [Settings.Capacity] (read : Path → Content) (env : Settings.Environment)
    (arguments : List Argument) : Except Exit Plan := do
  let i ← (Invocation.ofArguments arguments).mapError .ofStop
  let path ← settingsFile i env
  let settings ← (Settings.load read env path i.baseUrl).mapError .ofFault
  match settings.logPath? env with
  | none => .error (.failed "" (Exit.homeless "data") [])
  | some logDirectory =>
    return ⟨i.operation, settings, logDirectory, .ofRequest (env.text? "RUST_LOG")⟩

def logFile (p : Plan) : Path := p.logDirectory.join (.ofText "client.log")

def announcement (p : Plan) : Log.Event :=
  ⟨.debug, "client", [], "using api at " ++ quote p.settings.baseUrl, []⟩

def task (client : Transport.Client) (p : Plan) : Task Outcome := do
  Task.write p.announcement
  let outcome ← (Submitter.ofBase client p.settings.baseUrl).perform p.operation
  Task.write outcome.report
  return outcome

def logLines (p : Plan) (events : List Log.Event) : String :=
  String.join ((events.filterMap p.filter.apply).map fun e => e.render ++ "\n")

def openLog {m : Type → Type} [Monad m] [Storage m] (p : Plan) : m (Except Exit Unit) := do
  match ← Storage.makeDirectories p.logDirectory with
  | .error fault => return .error (.failed "" "failed to create log directory" [fault.message])
  | .ok () => return (← Storage.append p.logFile []).mapError fun _ => .broken

end Plan

def client [Transport.Reader] : Transport.Client := ⟨true, none⟩

structure Result (σ : Type) where
  exit : Exit
  files : σ

def run {σ : Type} [FileSystem σ] [Settings.Capacity] [Transport.Reader] (s : Surroundings)
    (files : σ) (env : Settings.Environment) (arguments : List Argument) (w : World) :
    Result σ × World :=
  match Plan.make (FileSystem.read files) env arguments with
  | .error exit => (⟨exit, files⟩, w)
  | .ok plan =>
    match (plan.openLog : StateM σ _).run files with
    | (.error exit, files) => (⟨exit, files⟩, w)
    | (.ok (), files) =>
      let (outcome, after) := (plan.task client).run s { w with logged := [] }
      let lines := plan.logLines after.logged.reverse
      let written := (Storage.append plan.logFile (utf8 lines) : StateM σ _).run files
      (⟨.ofOutcome outcome, written.2⟩, after)

attribute [instance] Settings.Capacity.usual Transport.Reader.usual

end MapClient.CommandLine
