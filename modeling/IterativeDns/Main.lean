import IterativeDns.CommandLine
import Std.Async.Timer
import Std.Async.UDP

/-!
# The program

This file runs the shell on the real network, clock and terminal.  It carries datagrams, draws
identifiers and reads lines; what is done with them is decided elsewhere.
-/

namespace IterativeDns.Program

open Std.Async (Async Selectable Selector)

/-! ## The network -/

/-- The most octets of a datagram that are received. -/
def maxDatagramLength : UInt64 := 1024

/-- The socket address of a server. -/
def socketAddress (server : Endpoint) : Std.Net.SocketAddress :=
  match server.address with
  | .v4 address => .v4 ⟨⟨#v[address.a, address.b, address.c, address.d]⟩, server.port⟩
  | .v6 address => .v6 ⟨⟨address.groups⟩, server.port⟩

/-- The address at which replies from a server are received: any address of the same version. -/
def anyAddress (server : Endpoint) : Std.Net.SocketAddress :=
  match server.address with
  | .v4 _ => .v4 ⟨⟨#v[0, 0, 0, 0]⟩, 0⟩
  | .v6 _ => .v6 ⟨⟨#v[0, 0, 0, 0, 0, 0, 0, 0]⟩, 0⟩

/-- Waits for a datagram, but no longer than a number of milliseconds. -/
def receive (socket : Std.Async.UDP.Socket) (patience : Nat) : Async (Option ByteArray) := do
  Selectable.one #[
    .case (socket.recvSelector maxDatagramLength) fun (payload, _) => return some payload,
    .case (← Selector.sleep (.ofNat patience)) fun _ => return none]

/-- Sends a datagram from a fresh socket and waits for its reply. -/
def exchange (request : Request) : IO Delivery := do
  let start ← IO.monoMsNow
  try
    let socket ← Std.Async.UDP.Socket.mk
    socket.bind (anyAddress request.server)
    socket.connect (socketAddress request.server)
    let reply ← Async.block do
      socket.send ⟨request.payload.toArray⟩
      receive socket request.patience
    let delay := (← IO.monoMsNow) - start
    match reply with
    | some payload => return .after (min delay request.patience) (.datagram payload.toList)
    | none => return .never
  catch error =>
    let delay := (← IO.monoMsNow) - start
    return .after (min delay request.patience) (.failure (.socket (toString error)))

/-- Holds a dialogue with the real network. -/
def hold {α : Type} : Dialogue α → IO α
  | .done value => return value
  | .drawId next => do hold (next (UInt16.ofNat (← IO.rand 0 0xffff)))
  | .exchange request next => do hold (next (← exchange request))
  | .note _ next => hold next

/-! ## Input and output -/

/-- Reads the octets of a line, with its line feed if it has one; `ahead` was read before. -/
partial def readLine (input : IO.FS.Stream) (ahead : ByteArray) : IO (Octets × ByteArray) := do
  match ahead.toList.span (· != Text.lineFeed) with
  | (line, feed :: rest) => return (line ++ [feed], ⟨rest.toArray⟩)
  | (line, []) =>
    let more ← input.read 4096
    if more.isEmpty then return (line, .empty) else readLine input (ahead ++ more)

/-- The octets of the file at a path. -/
def readFile (path : String) : IO (Except FileFault Octets) := do
  try
    return .ok (← IO.FS.readBinFile path).toList
  catch error =>
    return .error (.other (toString error))

/-- The shell at the present moment, where time is counted from `start`. -/
def upToDate (start : Nat) (shell : Shell) : IO Shell := do
  let elapsed := (← IO.monoMsNow) - start
  return shell.wait (elapsed - shell.resolver.memory.now.toNat)

/-- Reads lines and reacts to them until the session is over; the answer is the exit code. -/
partial def converse (interactive : Bool) (start : Nat) (input : IO.FS.Stream)
    (ahead : ByteArray) (shell : Shell) : IO UInt32 := do
  let output ← IO.getStdout
  output.putStr (Shell.promptIf interactive)
  output.flush
  let (octets, ahead) ← readLine input ahead
  match Text.lines octets with
  | [] =>
    output.putStr (Shell.unlines [Shell.farewell])
    return 0
  | none :: _ =>
    IO.eprintln FileFault.notText.message
    return 1
  | some line :: _ =>
    let reaction ← hold ((← upToDate start shell).react line)
    output.putStr (Shell.unlines reaction.output)
    if let some complaint := reaction.complaint then IO.eprintln complaint.message
    if reaction.isOver then
      output.putStr (Shell.unlines [Shell.farewell])
      return 0
    else converse interactive start input ahead reaction.shell

/-- Reports an error before the session begins. -/
def fail (exitCode : UInt32) (message : String) : IO UInt32 := do
  IO.eprintln message
  return exitCode

/-- The settings file that was read for an invocation, as a function of its path. -/
def readFiles (configFile : Option String) : IO (String → Except FileFault Octets) := do
  match configFile with
  | none => return fun _ => .error .notFound
  | some path =>
    let contents ← readFile path
    return fun _ => contents

/-- Runs the program. -/
def run (arguments : List String) : IO UInt32 := do
  match Invocation.parse arguments with
  | .error error => fail 2 error.message
  | .ok .help =>
    IO.print Invocation.helpText
    return 0
  | .ok .version =>
    IO.print Invocation.versionText
    return 0
  | .ok (.shell rootServer configFile) =>
    match Invocation.settings (← readFiles configFile) rootServer configFile with
    | .error error => fail 1 error.message
    | .ok config =>
      let shell := Shell.ofResolver (.ofConfig config)
      IO.print (Shell.unlines [shell.greeting])
      let input ← IO.getStdin
      converse (← input.isTty) (← IO.monoMsNow) input .empty shell

end IterativeDns.Program

/-- Opens the shell. -/
def main (arguments : List String) : IO UInt32 := IterativeDns.Program.run arguments
