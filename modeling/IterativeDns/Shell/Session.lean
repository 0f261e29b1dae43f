import IterativeDns.Resolution.Resolver
import IterativeDns.Shell.Command
import IterativeDns.Shell.Report
import IterativeDns.Text.Lines

/-!
# Sessions of the shell

This file holds the shell: it reads commands from lines, carries them out with a resolver, and shows
what comes of them.  Lines that are no commands are complained about apart from the output.  A
session ends at a quit command or at the end of the input, or when a line is not text.
-/

namespace IterativeDns

/-- The shell. -/
structure Shell where
  /-- The resolver that carries out lookups. -/
  resolver : Resolver
  /-- The number under which the shell subscribed to the reports of the resolver. -/
  subscriber : Nat
deriving DecidableEq, Repr

/-- What the shell does on a line of input. -/
structure Reaction where
  /-- The lines that it shows. -/
  output : List String := []
  /-- What it complains about. -/
  complaint : Option CommandError := none
  /-- The session is over. -/
  isOver : Bool := false
  /-- The shell afterwards. -/
  shell : Shell
deriving DecidableEq, Repr

/-- What came of a session. -/
structure Session where
  /-- All that was shown. -/
  output : String := ""
  /-- What the shell complained about. -/
  complaints : List CommandError := []
  /-- Every line up to the end of the session was text. -/
  isReadable : Bool := true
  /-- The shell afterwards. -/
  shell : Shell
deriving DecidableEq, Repr

namespace Shell

/-- A shell for a resolver, to whose reports it subscribes. -/
def ofResolver (resolver : Resolver) : Shell :=
  let (resolver, subscriber) := resolver.subscribe
  { resolver, subscriber }

/-- Lets time pass. -/
def wait (milliseconds : Nat) (shell : Shell) : Shell :=
  { shell with resolver := shell.resolver.wait milliseconds }

/-- What the shell shows before it reads a line from a terminal. -/
def prompt : String := "DNSLOOKUP> "

/-- The line that opens a session. -/
def greeting (shell : Shell) : String :=
  "Root DNS server is: " ++ shell.resolver.config.rootServer.text

/-- The line that closes a session. -/
def farewell : String := "Goodbye!"

/-! ## Carrying out commands -/

/-- Carries out a lookup: the reports about it are shown before its records, and a failure shows as
no records. -/
def lookup (shell : Shell) (query : Query) : Dialogue Reaction := do
  let (answer, resolver) ← shell.resolver.lookup query
  let (events, resolver) := resolver.collect shell.subscriber
  let records := match answer with
    | .ok records => records
    | .error _ => []
  return {
    output := events.flatMap Report.event ++ Report.results query records
    shell := { shell with resolver } }

/-- Carries out a command. -/
def execute (shell : Shell) : Command → Dialogue Reaction
  | .lookup query => shell.lookup query
  | .trace on => return {
      output := ["Verbose tracing is now: " ++ if on then "ON" else "OFF"]
      shell := { shell with resolver := shell.resolver.setVerbose on } }
  | .server address => return {
      output := ["Root DNS server is now: " ++ address.text]
      shell := { shell with resolver := shell.resolver.setRootServer address } }
  | .dump => return {
      output := Report.dump shell.resolver.memory.cache shell.resolver.memory.now
      shell }
  | .quit => return { isOver := true, shell }

/-- Reads a line and carries out the command on it, if there is one. -/
def react (shell : Shell) (line : String) : Dialogue Reaction :=
  match Command.parse line with
  | .ok none => return { shell }
  | .ok (some command) => shell.execute command
  | .error error => return { complaint := some error, shell }

/-! ## Whole sessions -/

/-- Lines with a line feed after each. -/
def unlines (lines : List String) : String := String.join (lines.map (· ++ "\n"))

/-- What is shown before a line is read. -/
def promptIf (interactive : Bool) : String := if interactive then prompt else ""

/-- Reacts to lines, one after the other, until the session is over.  Some milliseconds pass before
each of them, and a line may not be text. -/
def converse (interactive : Bool) (shell : Shell) : List (Nat × Option String) → Dialogue Session
  | [] => return { output := promptIf interactive ++ unlines [farewell], shell }
  | (_, none) :: _ => return { output := promptIf interactive, isReadable := false, shell }
  | (pause, some line) :: lines => do
    let reaction ← (shell.wait pause).react line
    let shown := promptIf interactive ++ unlines reaction.output
    if reaction.isOver then
      return { output := shown ++ unlines [farewell], shell := reaction.shell }
    let rest ← converse interactive reaction.shell lines
    return { rest with
      output := shown ++ rest.output
      complaints := reaction.complaint.toList ++ rest.complaints }

/-- A whole session on lines that come after some milliseconds each. -/
def session (interactive : Bool) (shell : Shell) (lines : List (Nat × Option String)) :
    Dialogue Session := do
  let session ← converse interactive shell lines
  return { session with output := unlines [shell.greeting] ++ session.output }

/-- A whole session on the octets of an input, all of which are there from the beginning. -/
def run (interactive : Bool) (shell : Shell) (input : Octets) : Dialogue Session :=
  shell.session interactive ((Text.lines input).map (0, ·))

end Shell

end IterativeDns
