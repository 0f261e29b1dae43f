import IterativeDns.Config
import IterativeDns.FileTree
import IterativeDns.Toml.Document

/-!
# Settings of a resolver in a file

This file reads the settings of a resolver from a settings file.  A setting that the file does not
give keeps its usual value, and keys that are no settings are ignored.
-/

namespace IterativeDns

/-- Why there are no settings in a file. -/
inductive ConfigError where
  /-- The file at a path cannot be read. -/
  | unreadable (path : String) (fault : FileFault)
  /-- The text is not that of a settings file, or a setting has a value that it cannot have. -/
  | malformed
deriving DecidableEq, Repr

/-- The error in words. -/
def ConfigError.message : ConfigError → String
  | unreadable path fault => "Failed to read config file " ++ path ++ ": " ++ fault.message
  | malformed => "Failed to parse config"

namespace Config

/-! ## Single settings -/

/-- The natural number below a bound that a node stands for. -/
def naturalBelow? (bound : Nat) : Toml.Node → Option Nat
  | .integer value => if 0 ≤ value ∧ value < bound then some value.toNat else none
  | _ => none

/-- The truth value that a node stands for. -/
def truth? : Toml.Node → Option Bool
  | .boolean value => some value
  | _ => none

/-- The address that a node stands for. -/
def address? : Toml.Node → Option IpAddress
  | .string text => IpAddress.parse? text
  | _ => none

/-- The setting that a file gives under a key, or its usual value if the file does not have the
key. -/
def setting {α : Type} (entries : Toml.Entries) (key : String) (read? : Toml.Node → Option α)
    (usual : α) : Option α :=
  match entries.get? key with
  | none => some usual
  | some node => read? node

/-! ## Whole files -/

/-- The settings that the tables of a file give. -/
def ofEntries? (entries : Toml.Entries) : Option Config := do
  let usual : Config := {}
  let port ← setting entries "port" (naturalBelow? UInt16.size) usual.port.toNat
  return {
    rootServer := ← setting entries "root_server" address? usual.rootServer
    port := UInt16.ofNat port
    timeoutSeconds := ← setting entries "timeout_secs" (naturalBelow? UInt64.size) usual.timeoutSeconds
    maxRetries := ← setting entries "max_retries" (naturalBelow? UInt32.size) usual.maxRetries
    maxIndirection :=
      ← setting entries "max_indirection" (naturalBelow? UInt64.size) usual.maxIndirection
    maxReferrals := ← setting entries "max_referrals" (naturalBelow? UInt64.size) usual.maxReferrals
    normalizeNames := ← setting entries "normalize_names" truth? usual.normalizeNames }

/-- The settings that the text of a file gives. -/
def parse (text : String) : Except ConfigError Config :=
  match (Toml.parse? text).bind ofEntries? with
  | some config => .ok config
  | none => .error .malformed

/-- The settings in the file at a path, where `readFile` gives the octets of files. -/
def load (readFile : String → Except FileFault Octets) (path : String) :
    Except ConfigError Config :=
  match readFile path with
  | .error fault => .error (.unreadable path fault)
  | .ok octets =>
    match Text.decodeUtf8? octets with
    | none => .error (.unreadable path .notText)
    | some text => parse text

end Config

end IterativeDns
