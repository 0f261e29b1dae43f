import IterativeDns.Config.File
import IterativeDns.Shell.Session

/-!
# The command line

This file reads the arguments of the program and says what a run does that is not at a terminal.
The one operand is the address of the server at which lookups start; an option names a settings file,
and two flags show a text instead.  Arguments are read from left to right, and what is wrong with one
is reported when it is read, so that a flag after it has no effect.
-/

namespace IterativeDns

/-- What the arguments ask for. -/
inductive Invocation where
  /-- Show how the program is called. -/
  | help
  /-- Show the version of the program. -/
  | version
  /-- Open a shell that starts lookups at a server, with the settings in a file. -/
  | shell (rootServer : IpAddress) (configFile : Option String)
deriving DecidableEq, Repr

/-- Why arguments ask for nothing. -/
inductive UsageError where
  /-- The address is missing. -/
  | missingAddress
  /-- The operand is not an address. -/
  | badAddress (text : String)
  /-- There is an operand too many. -/
  | unexpectedOperand (text : String)
  /-- There is no such option. -/
  | unknownOption (text : String)
  /-- A flag has a value. -/
  | unexpectedValue (text : String)
  /-- The settings file is not named. -/
  | missingFile
  /-- The settings file is named twice. -/
  | secondFile
deriving DecidableEq, Repr

/-- The error in words. -/
def UsageError.message : UsageError → String
  | missingAddress => "error: the address of the root server is missing"
  | badAddress text => "error: invalid IP address " ++ Text.quoted text
  | unexpectedOperand text => "error: unexpected argument " ++ Text.quoted text
  | unknownOption text => "error: unknown option " ++ Text.quoted text
  | unexpectedValue text => "error: unexpected value in " ++ Text.quoted text
  | missingFile => "error: a value is required for --config"
  | secondFile => "error: --config cannot be used multiple times"

namespace Invocation

/-! ## Arguments -/

/-- What the arguments read so far say. -/
structure Given where
  /-- The address of the server. -/
  address : Option IpAddress := none
  /-- The settings file. -/
  file : Option String := none

/-- Takes the operand. -/
def Given.operand (given : Given) (text : String) : Except UsageError Given :=
  match given.address, IpAddress.parse? text with
  | some _, _ => .error (.unexpectedOperand text)
  | none, none => .error (.badAddress text)
  | none, some address => .ok { given with address := some address }

/-- Takes the name of the settings file. -/
def Given.configFile (given : Given) (path : String) : Except UsageError Given :=
  if path = "" then .error .missingFile
  else
    match given.file with
    | some _ => .error .secondFile
    | none => .ok { given with file := some path }

/-- What is asked for when all arguments are read. -/
def Given.finish (given : Given) : Except UsageError Invocation :=
  match given.address with
  | none => .error .missingAddress
  | some address => .ok (shell address given.file)

/-- Reads arguments that are all operands. -/
def ofOperands (given : Given) : List String → Except UsageError Invocation
  | [] => given.finish
  | text :: rest => do ofOperands (← given.operand text) rest

/-- An argument, by its form. -/
inductive Form where
  /-- It ends the options. -/
  | endOfOptions
  /-- It shows how the program is called. -/
  | help
  /-- It shows the version. -/
  | version
  /-- It names the settings file. -/
  | file (path : String)
  /-- The next argument names the settings file. -/
  | fileNext
  /-- It is an operand. -/
  | operand (text : String)

/-- The value that follows the letter of an option in the same argument; an equals sign may stand
before it. -/
def attachedValue : List Char → String
  | '=' :: value => String.ofList value
  | value => String.ofList value

/-- The form of an argument after two dashes: a name and perhaps a value after an equals sign. -/
def longForm (text : String) (cs : List Char) : Except UsageError Form :=
  let name := String.ofList (cs.takeWhile (· != '='))
  match name, cs.dropWhile (· != '=') with
  | "help", [] => .ok .help
  | "version", [] => .ok .version
  | "config", [] => .ok .fileNext
  | "config", _ :: value => .ok (.file (String.ofList value))
  | "help", _ => .error (.unexpectedValue text)
  | "version", _ => .error (.unexpectedValue text)
  | _, _ => .error (.unknownOption text)

/-- The form of an argument.  After a single dash only the first letter counts, because each either
ends the reading or takes the rest as its value. -/
def form (text : String) : Except UsageError Form :=
  match text.toList with
  | ['-', '-'] => .ok .endOfOptions
  | '-' :: '-' :: cs => longForm text cs
  | '-' :: 'h' :: _ => .ok .help
  | '-' :: 'V' :: _ => .ok .version
  | ['-', 'c'] => .ok .fileNext
  | '-' :: 'c' :: cs => .ok (.file (attachedValue cs))
  | '-' :: _ :: _ => .error (.unknownOption text)
  | _ => .ok (.operand text)

/-- The argument cannot be the value of an option: it starts with a dash, and more follows. -/
def looksLikeOption (text : String) : Bool := text.toList.head? = some '-' && text != "-"

/-- Reads arguments after those that were read already. -/
def ofArguments (given : Given) : List String → Except UsageError Invocation
  | [] => given.finish
  | text :: rest => do
    match ← form text with
    | .endOfOptions => ofOperands given rest
    | .help => return help
    | .version => return version
    | .file path => ofArguments (← given.configFile path) rest
    | .operand text => ofArguments (← given.operand text) rest
    | .fileNext =>
      match rest with
      | [] => .error .missingFile
      | path :: rest =>
        if looksLikeOption path then .error .missingFile
        else ofArguments (← given.configFile path) rest

/-- What arguments ask for. -/
def parse (arguments : List String) : Except UsageError Invocation := ofArguments {} arguments

/-- The settings of the shell that is asked for.  The address on the command line counts for more
than the one in the file. -/
def settings (readFile : String → Except FileFault Octets) (rootServer : IpAddress)
    (configFile : Option String) : Except ConfigError Config := do
  let config ← match configFile with
    | none => .ok {}
    | some path => Config.load readFile path
  return { config with rootServer }

/-! ## Texts -/

/-- The line about the version. -/
def versionText : String := "dnslookup 0.1.0\n"

/-- How the program is called. -/
def helpText : String := Shell.unlines [
  "Iterative DNS lookups starting from a root server",
  "",
  "Usage: dnslookup [OPTIONS] <ROOT_SERVER>",
  "",
  "Arguments:",
  "  <ROOT_SERVER>  IP address of the root server every lookup starts at",
  "",
  "Options:",
  "  -c, --config <CONFIG>  TOML file with resolver settings",
  "  -h, --help             Print help",
  "  -V, --version          Print version"]

end Invocation

/-! ## Runs -/

/-- What came of a run of the program. -/
structure Run where
  /-- The exit code: 0 if all went well, 2 after a usage error, and 1 after any other one. -/
  exitCode : Nat := 0
  /-- What was written to the output. -/
  output : String := ""
  /-- What was complained about. -/
  complaints : List String := []
deriving DecidableEq, Repr

namespace Run

/-- The run that ends with an error before anything is written. -/
def failed (exitCode : Nat) (message : String) : Run := { exitCode, complaints := [message] }

/-- The run that comes of a session of the shell. -/
def ofSession (session : Session) : Run where
  exitCode := if session.isReadable then 0 else 1
  output := session.output
  complaints := session.complaints.map (·.message)

/-- The run with given arguments on the octets of an input. -/
def ofArguments (readFile : String → Except FileFault Octets) (arguments : List String)
    (input : Octets) : Dialogue Run :=
  match Invocation.parse arguments with
  | .error error => return failed 2 error.message
  | .ok .help => return { output := Invocation.helpText }
  | .ok .version => return { output := Invocation.versionText }
  | .ok (.shell rootServer configFile) =>
    match Invocation.settings readFile rootServer configFile with
    | .error error => return failed 1 error.message
    | .ok config =>
      return ofSession (← (Shell.ofResolver (.ofConfig config)).run false input)

end Run

end IterativeDns
