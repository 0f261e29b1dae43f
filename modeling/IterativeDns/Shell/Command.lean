import IterativeDns.Address.IpAddress
import IterativeDns.Question
import IterativeDns.Text.Blank

/-!
# Commands

This file holds the commands of the interactive shell and reads them from lines.  A line is cut at
the first number sign and consists of words between blanks; the first word is the keyword and is
recognized in upper or lower case.  A line without words is no command.
-/

namespace IterativeDns

/-- A command of the shell. -/
inductive Command where
  /-- Look up the records that a query asks for. -/
  | lookup (query : Query)
  /-- Turn the reports about lookups on or off. -/
  | trace (on : Bool)
  /-- Start lookups at another server. -/
  | server (address : IpAddress)
  /-- Show what the cache holds. -/
  | dump
  /-- End the session. -/
  | quit
deriving DecidableEq, Repr

/-- Why a line is not a command. -/
inductive CommandError where
  /-- The keyword is unknown. -/
  | unknown
  /-- A lookup has too few or too many words. -/
  | lookupUsage
  /-- The type to look up is unknown. -/
  | queryType
  /-- The name to look up is not a domain name. -/
  | hostName (error : NameError)
  /-- The words after the keyword are not those of a trace command. -/
  | traceUsage
  /-- The server command has too few or too many words. -/
  | serverUsage
  /-- The server is not given by an address. -/
  | rootServer
deriving DecidableEq, Repr

/-- The error in words. -/
def CommandError.message : CommandError → String
  | unknown =>
    "Invalid command. Valid commands are:\n\tlookup fqdn [type]\n\ttrace on|off\n" ++
      "\tserver IP\n\tdump\n\tquit"
  | lookupUsage => "Invalid call. Format:\n\tlookup hostName [type]"
  | queryType =>
    "Invalid query type. Must be one of:\n\tA, AAAA, NS, MX, CNAME, SOA, SRV, ANY"
  | hostName error => "Invalid host name (" ++ error.fault.message ++ ")."
  | traceUsage => "Invalid call. Format:\n\ttrace on|off"
  | serverUsage => "Invalid call. Format:\n\tserver IP"
  | rootServer => "Invalid root server (invalid IP address syntax)."

namespace Command

/-- The part of a line before the first number sign. -/
def withoutComment (line : String) : String :=
  String.ofList (line.toList.takeWhile (· != '#'))

/-- Reads the name of a lookup. -/
def parseLookup (name : String) (type : RecordType) : Except CommandError Command :=
  match Name.parse name with
  | .ok name => .ok (.lookup ⟨name, type⟩)
  | .error error => .error (.hostName error)

/-- Reads the words after the keyword of a lookup.  Without a type, addresses are looked up, and an
unknown type is reported before a bad name. -/
def parseLookupWords : List String → Except CommandError Command
  | [name] => parseLookup name .a
  | [name, type] =>
    match RecordType.parse? type with
    | some type => parseLookup name type
    | none => .error .queryType
  | _ => .error .lookupUsage

/-- Reads the words after the keyword of a trace command. -/
def parseTraceWords : List String → Except CommandError Command
  | [setting] =>
    if setting.toLower = "on" then .ok (.trace true)
    else if setting.toLower = "off" then .ok (.trace false)
    else .error .traceUsage
  | _ => .error .traceUsage

/-- Reads the words after the keyword of a server command. -/
def parseServerWords : List String → Except CommandError Command
  | [address] =>
    match IpAddress.parse? address with
    | some address => .ok (.server address)
    | none => .error .rootServer
  | _ => .error .serverUsage

/-- Reads the words of a command.  Words after a keyword that takes none are ignored. -/
def parseWords : List String → Except CommandError (Option Command)
  | [] => .ok none
  | keyword :: words =>
    match keyword.toLower with
    | "quit" | "exit" => .ok (some .quit)
    | "dump" => .ok (some .dump)
    | "lookup" | "l" => some <$> parseLookupWords words
    | "trace" => some <$> parseTraceWords words
    | "server" => some <$> parseServerWords words
    | _ => .error .unknown

/-- Reads the command on a line, if there is one. -/
def parse (line : String) : Except CommandError (Option Command) :=
  parseWords (Text.words (withoutComment line))

end Command

end IterativeDns
