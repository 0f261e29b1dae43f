import IterativeDns.Address.IpAddress
import IterativeDns.Record.Basic

/-!
# Why a lookup fails

This file lists what can go wrong between a resolver and a server, and what can end a lookup, and
words each failure.  Some failures end only one branch of a lookup, so that another server may
still answer; others end the lookup as a whole.
-/

namespace IterativeDns

/-- Why no octets came back from a server. -/
inductive TransportError where
  /-- The time to wait was over. -/
  | timeout (server : Endpoint)
  /-- The socket failed, for the reason given. -/
  | socket (reason : String)
deriving DecidableEq, Repr

/-- The failure in words. -/
def TransportError.message : TransportError → String
  | timeout server => "no response from " ++ server.text
  | socket reason => "socket error: " ++ reason

/-- Why a lookup ended without an answer. -/
inductive ResolutionError where
  /-- Too many aliases and nameservers were looked up, one inside the other. -/
  | indirectionLimit (limit : Nat)
  /-- Too many referrals were followed. -/
  | referralLimit (limit : Nat)
  /-- The server did not answer. -/
  | unreachable (server : Endpoint)
  /-- The server sent a message with a fault. -/
  | protocol (server : IpAddress) (fault : WireError)
  /-- The name that an alias stands for could not be resolved. -/
  | aliasUnresolved (target : Name) (reason : ResolutionError)
  /-- The server refused to answer. -/
  | refused (server : IpAddress)
  /-- The answers do not help with the query. -/
  | noUsableAnswer
  /-- The response holds neither answers nor a referral. -/
  | noNameservers
  /-- No address is known for any of the nameservers referred to. -/
  | unresolvableNameservers
deriving DecidableEq, Repr

namespace ResolutionError

/-- The failure in words. -/
def message : ResolutionError → String
  | indirectionLimit limit => s!"maximum number of indirection levels ({limit}) reached"
  | referralLimit limit => s!"gave up after following {limit} referrals"
  | unreachable server => server.text ++ " did not answer"
  | protocol server fault => "bad response from " ++ server.text ++ ": " ++ fault.message
  | aliasUnresolved target reason =>
    "alias target " ++ target.shown ++ " could not be resolved: " ++ reason.message
  | refused server => server.text ++ " refused the query"
  | noUsableAnswer => "answer section holds nothing usable for the query"
  | noNameservers => "response neither answers nor refers"
  | unresolvableNameservers => "none of the referred nameservers could be resolved"

/-- The failure is that of a limit. -/
def isLimit : ResolutionError → Bool
  | indirectionLimit _ => true
  | referralLimit _ => true
  | _ => false

/-- The failure ends the whole lookup: no other server can help. -/
def isLookupWide : ResolutionError → Bool
  | indirectionLimit _ => true
  | referralLimit _ => true
  | aliasUnresolved .. => true
  | _ => false

/-- A limit ends the whole lookup. -/
theorem isLookupWide_of_isLimit {error : ResolutionError} (h : error.isLimit = true) :
    error.isLookupWide = true := by
  cases error <;> simp_all [isLimit, isLookupWide]

/-- How a failure to resolve the name that an alias stands for is reported: a failure of the
whole lookup as it is, and any other one with the name. -/
def forAlias (target : Name) (error : ResolutionError) : ResolutionError :=
  if error.isLookupWide then error else aliasUnresolved target error

/-- A failure to resolve an alias ends the whole lookup. -/
theorem isLookupWide_forAlias (target : Name) (error : ResolutionError) :
    (error.forAlias target).isLookupWide = true := by
  unfold forAlias
  split
  · assumption
  · rfl

end ResolutionError

/-- How a lookup, or a branch of one, ends: with records, perhaps none, or with a failure. -/
abbrev Answer := Except ResolutionError (List Record)

end IterativeDns
