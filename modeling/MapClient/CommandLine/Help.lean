import MapClient.CommandLine.Arguments

/-!
# Help

A page of help says what a command is for, how it is called, and what each of
its operands and flags means, in two columns.
-/

set_option autoImplicit false

namespace MapClient.CommandLine

def Verb.purpose : Verb → String
  | .addServer => "submit a new server"
  | .addDimension => "submit a new dimension for a server"
  | .listServers => "list the servers the API knows about"
  | .listDimensions => "list the dimensions the API knows about"

namespace Help

def helpPurpose : String := "Print this message or the help of the given subcommand(s)"

structure Section where
  title : String
  rows : List (String × String)

def padded (width : Nat) (s : String) : String := s.pushn ' ' (width - s.length)

def Section.render (s : Section) : String :=
  let width := (s.rows.map (·.1.length)).foldl max 0
  s.title ++ ":\n" ++
    String.join (s.rows.map fun r => "  " ++ padded width r.1 ++ "  " ++ r.2 ++ "\n")

def flagRows : List (String × String) :=
  [("    " ++ Flag.baseUrl.shown, "Overrides the configured API base URL"),
    ("    " ++ Flag.config.shown,
      "Reads configuration from this file instead of the default location"),
    ("-h, --help", "Print help")]

structure Page where
  purpose : Option String
  usage : String
  sections : List Section

def callOf (words : List String) : String := " ".intercalate ("client" :: words)

def inAngles (s : String) : String := "<" ++ s ++ ">"

def page : Topic → Page
  | .program =>
    ⟨none, callOf ["[OPTIONS]", "<COMMAND>"],
      [⟨"Commands", Verb.all.map (fun v => (v.name, v.purpose)) ++ [("help", helpPurpose)]⟩,
        ⟨"Options", flagRows ++ [("-V, --version", "Print version")]⟩]⟩
  | .verb v =>
    let operands := v.operands.map inAngles
    let sections : List Section := if operands.isEmpty then []
      else [⟨"Arguments", operands.map fun o => (o, "")⟩]
    ⟨some v.purpose, callOf ([v.name, "[OPTIONS]"] ++ operands),
      sections ++ [⟨"Options", flagRows⟩]⟩
  | .help =>
    ⟨some helpPurpose, callOf ["help", "[COMMAND]..."],
      [⟨"Arguments", [("[COMMAND]...", "Print help for the subcommand(s)")]⟩]⟩

def usageLine (p : Page) : String := "Usage: " ++ p.usage

def render (t : Topic) : String :=
  let p := page t
  p.purpose.elim "" (· ++ "\n\n") ++ usageLine p ++ "\n\n"
    ++ "\n".intercalate (p.sections.map Section.render)

end Help

def versionLine : String := "chunkform 0.1.0"

def Mistake.message : Mistake → String
  | .unexpected a => "error: unexpected argument '" ++ a ++ "' found"
  | .unknownVerb a => "error: unrecognized subcommand '" ++ a ++ "'"
  | .missingValue f => "error: a value is required for '" ++ f.shown ++ "' but none was supplied"
  | .repeatedFlag f => "error: the argument '" ++ f.shown ++ "' cannot be used multiple times"
  | .needlessValue value flag =>
    "error: unexpected value '" ++ value ++ "' for '" ++ flag
      ++ "' found; no more were expected"
  | .missingOperands => "error: the following required arguments were not provided:"
  | .brokenText => "error: invalid UTF-8 was detected in one or more arguments"
  | .missingVerb => "error: 'client' requires a subcommand but one was not provided"
  | .blank => Help.usageLine (Help.page .program)

end MapClient.CommandLine
