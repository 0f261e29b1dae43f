import IterativeDns.Address.IpAddress

/-!
# Settings of a resolver

This file holds what a resolver needs to know from the start: where lookups begin, how servers are
asked, and how far a lookup may go.
-/

namespace IterativeDns

/-- The settings of a resolver. -/
structure Config where
  /-- The server at which every lookup starts. -/
  rootServer : IpAddress := .v4 ⟨198, 41, 0, 4⟩
  /-- The port on which servers are asked. -/
  port : UInt16 := 53
  /-- The seconds to wait for each reply. -/
  timeoutSeconds : Nat := 5
  /-- How often a query is sent again after the first attempt got no reply. -/
  maxRetries : Nat := 2
  /-- How many aliases and nameservers without an address may be looked up on the way to an
  answer, one inside the other. -/
  maxIndirection : Nat := 10
  /-- How many referrals may be followed, one after the other. -/
  maxReferrals : Nat := 32
  /-- Names are compared without regard to case and to a dot at their end. -/
  normalizeNames : Bool := true
deriving DecidableEq, Repr

namespace Config

/-- The milliseconds to wait for each reply. -/
def timeout (config : Config) : Nat := config.timeoutSeconds * 1000

/-- The socket at which a server is asked. -/
def endpoint (config : Config) (server : IpAddress) : Endpoint := ⟨server, config.port⟩

end Config

end IterativeDns
