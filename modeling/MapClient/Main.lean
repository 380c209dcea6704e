import MapClient.CommandLine.Run
import Std.Async.DNS
import Std.Async.TCP
import Std.Time

/-!
# The program

The outside of a run: the variables and files of the process, its clock, its
connections and its output. Connections are not encrypted, so a host that is
named with `https` is not reached.
-/

set_option autoImplicit false

namespace MapClient.Program

open MapClient.CommandLine MapClient.Files MapClient.Http MapClient.Text MapClient.Transport
open Std.Async

def environment : IO Settings.Environment := do
  let block ← IO.FS.readBinFile "/proc/self/environ"
  let lines := (pieces (· == 0) block.toList).filter fun l => !l.isEmpty
  return ⟨(lines.map (cut (· == equalsSign))).map fun v => (v.1, v.2.getD [])⟩

def content (p : Path) : IO Content := do
  match ofUtf8? p.bytes with
  | none => return .absent
  | some name =>
    try
      let found ← (System.mkFilePath [name]).metadata
      match found.type with
      | .file =>
        try return .bytes (← IO.FS.readBinFile name).toList
        catch _ => return .unreadable
      | _ => return .absent
    catch _ => return .absent

def faultOf : IO.Error → Fault
  | .noFileOrDirectory .. => .missing
  | .alreadyExists .. => .present
  | .inappropriateType .. => .notDirectory
  | .permissionDenied .. => .denied
  | fault => .other (toString fault)

def attempt (action : IO Unit) : IO (Except Fault Unit) := do
  try
    action
    return .ok ()
  catch fault => return .error (faultOf fault)

instance : Storage IO where
  makeDirectories p := attempt do
    try IO.FS.createDir p.shown
    catch
      | .noFileOrDirectory .. => IO.FS.createDirAll p.shown
      | fault => unless ← (System.mkFilePath [p.shown]).isDir do throw fault
  append p content := attempt do
    (← IO.FS.Handle.mk p.shown .append).write ⟨content.toArray⟩

def timeMark : IO String := do
  let time ← Std.Time.Timestamp.now
  return (Std.Time.PlainDateTime.ofWallTime (.ofTimestamp time .zero)).toDateTimeString ++ "Z"

def now : IO Instant := do
  let time := (← Std.Time.Timestamp.now).toNanosecondsSinceUnixEpoch.toInt
  return ⟨time / Instant.billion, (time % Instant.billion).toNat⟩

def boundary : IO String := do
  let bytes ← IO.getRandomBytes 16
  let digits := bytes.toList.flatMap fun b =>
    [Quoted.hexDigit (b.toNat / 16), Quoted.hexDigit (b.toNat % 16)]
  return .ofList (digits.take 16 ++ '-' :: digits.drop 16)

def socketAddress (port : Nat) : Std.Net.IPAddr → Std.Net.SocketAddress
  | .v4 address => .v4 ⟨address, .ofNat port⟩
  | .v6 address => .v6 ⟨address, .ofNat port⟩

def addresses (u : Url) : IO (List Std.Net.SocketAddress) := do
  match u.authority with
  | none => return []
  | some a =>
    let port := (a.port.or (Url.defaultPort? u.scheme)).getD 0
    let name := String.ofList (a.host.render.filter fun c => c != '[' && c != ']')
    try return (← (DNS.getAddrInfo name (toString port)).block).toList.map (socketAddress port)
    catch _ => return []

def connect : List Std.Net.SocketAddress → IO (Except ConnectFault TCP.Socket.Client)
  | [] => return .error .unreachable
  | address :: rest => do
    let socket ← TCP.Socket.Client.mk
    try
      (socket.connect address).block
      return .ok socket
    catch _ =>
      if rest.isEmpty then return .error .refused else connect rest

partial def receive (request : Request) (socket : TCP.Socket.Client) (got : List UInt8) :
    IO (List UInt8) := do
  if isWhole client.reader request got then return got
  let more ← try (socket.recv? 65536).block catch _ => pure none
  match more with
  | none => return got
  | some bytes => receive request socket (got ++ bytes.toList)

def reply (request : Request) : IO Reply := do
  if request.url.scheme == "https".toList then return .error .unreachable
  match ← connect (← addresses request.url) with
  | .error fault => return .error fault
  | .ok socket =>
    try (socket.send ⟨request.encode.toArray⟩).block catch _ => pure ()
    return .ok (← receive request socket [])

def perform {α : Type} (log : Log.Event → IO Unit) : Task α → IO α
  | .done value => return value
  | .now next => do perform log (next (← now))
  | .boundary next => do perform log (next (← boundary))
  | .log event next => do
    log event
    perform log next
  | .ask request next => do perform log (next (← reply request))

def carryOut (p : Plan) : IO Exit := do
  let log (event : Log.Event) : IO Unit := do
    match p.logLines [event] with
    | "" => pure ()
    | line => discard <| Storage.append p.logFile (utf8 ((← timeMark) ++ " " ++ line))
  return .ofOutcome (← perform log (p.task client))

def exit (arguments : List Argument) : IO Exit := do
  let env ← environment
  let found ← (Plan.pathsAsked env arguments).mapM fun p => return (p, ← content p)
  match Plan.make (fun p => (found.lookup p).getD .absent) env arguments with
  | .error e => return e
  | .ok p =>
    match ← p.openLog with
    | .error e => return e
    | .ok () => carryOut p

end MapClient.Program

def main (arguments : List String) : IO UInt32 := do
  let e ← MapClient.Program.exit (arguments.map MapClient.Text.utf8)
  IO.print e.output
  IO.eprint e.errors
  return .ofNat e.status
