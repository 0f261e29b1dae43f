import IterativeDns.Cache
import IterativeDns.Resolution.Dialogue
import IterativeDns.Resolution.Verdict

/-!
# The resolver

This file holds the resolver, which walks down from a root server to the servers that know the
answer to a query.  Queries go out one at a time, and every record of an accepted response is stored
before the response is read.  A referral is followed by asking the servers that it names, one after
the other; an alias, and a nameserver without a known address, is looked up from the root.

Two counters bound a lookup.  One falls with every alias or nameserver that is looked up inside the
lookup of another name, the other with every referral, and starts afresh for each name.  Both
recursions are on these counters.
-/

namespace IterativeDns

/-! ## State -/

/-- What a lookup may change. -/
structure Memory where
  /-- The records seen so far. -/
  cache : Cache
  /-- Those who are told about the work. -/
  tracer : Tracer
  /-- The present moment. -/
  now : Instant
deriving DecidableEq, Repr

/-- A resolver. -/
structure Resolver where
  /-- The settings. -/
  config : Config
  /-- What lookups change. -/
  memory : Memory
deriving DecidableEq, Repr

/-- A part of a lookup: a dialogue that may change what the resolver remembers. -/
abbrev Lookup (α : Type) := StateT Memory Dialogue α

namespace Memory

/-- The records for a query that are known and have not expired. -/
def known (memory : Memory) (query : Query) : List Record :=
  memory.cache.lookup query memory.now

/-- The name that a query's name is known to be an alias for.  A query for aliases, or for every
type, is not about what the alias stands for.  Should several aliases be known for the name, any of
them may be taken; this takes the one that came first. -/
def knownAlias? (memory : Memory) (query : Query) : Option Name :=
  if query.type = .cname ∨ query.type = .any then none
  else (memory.known { query with type := .cname }).findSome? (·.data.aliasTarget?)

/-- Stores all records of a message. -/
def learn (message : Message) (memory : Memory) : Memory :=
  { memory with cache := memory.cache.insertAll message.records memory.now }

/-- Lets time pass. -/
def wait (milliseconds : Nat) (memory : Memory) : Memory :=
  { memory with now := memory.now + milliseconds }

/-- Puts an event into the mailboxes. -/
def deliver (event : TraceEvent) (memory : Memory) : Memory :=
  { memory with tracer := memory.tracer.deliver event }

end Memory

namespace Lookup

/-! ## Talking to a server -/

/-- Draws an identifier. -/
def drawId : Lookup UInt16 := StateT.lift (.drawId .done)

/-- Notes a step. -/
def note (step : Step) : Lookup Unit := StateT.lift (.note step (.done ()))

/-- Reports an event, if anyone is told about events. -/
def announce (event : TraceEvent) : Lookup Unit := do
  if (← get).tracer.isHeard then
    note (.traced event)
    modify (·.deliver event)

/-- Sends a datagram and waits for its reply as long as the settings say. -/
def exchange (config : Config) (server : IpAddress) (payload : Octets) : Lookup Reply := do
  let request : Request := ⟨config.endpoint server, payload, config.timeout⟩
  let delivery ← StateT.lift (.exchange request .done)
  let (elapsed, reply) := delivery.awaited request
  modify (·.wait elapsed)
  return reply

/-- Sends the same octets up to a number of times until a datagram comes back.  Attempts are
numbered from `attempt` on. -/
def sendUntilReply (config : Config) (query : Query) (server : IpAddress) (id : UInt16)
    (payload : Octets) (attempt : Nat) : (attempts : Nat) → Lookup (Option Octets)
  | 0 => return none
  | attempts + 1 => do
    announce (.querySent id query server attempt)
    match ← exchange config server payload with
    | .datagram octets => return some octets
    | .failure _ => sendUntilReply config query server id payload (attempt + 1) attempts

/-- Asks a server a query; the response must be acceptable. -/
def ask (config : Config) (query : Query) (server : IpAddress) :
    Lookup (Except ResolutionError Message) := do
  let id ← drawId
  let payload := (Message.ofQuery id query).encode
  match ← sendUntilReply config query server id payload 0 (config.maxRetries + 1) with
  | none => return .error (.unreachable (config.endpoint server))
  | some octets =>
    match Message.accept id octets with
    | .error fault => return .error (.protocol server fault)
    | .ok message =>
      note (.accepted query server message)
      announce (.response server message)
      return .ok message

/-! ## Going on from a response -/

/-- Asks servers in turn until one gives an answer or a failure that ends the whole lookup; `last` is
the failure if there are no more servers. -/
def tryEach (visit : IpAddress → Lookup Answer) (last : ResolutionError) :
    List IpAddress → Lookup Answer
  | [] => return .error last
  | server :: servers => do
    match ← visit server with
    | .ok records => return .ok records
    | .error error =>
      if error.isLookupWide then return .error error
      else tryEach visit error servers

/-- Follows a referral to servers, if one more referral may be followed. -/
def tryServers (config : Config) (onward : Option (IpAddress → Lookup Answer))
    (servers : List IpAddress) : Lookup Answer :=
  match onward with
  | none => return .error (.referralLimit config.maxReferrals)
  | some visit => tryEach visit .noNameservers servers

/-- Looks up nameservers in turn and follows the referral to the addresses of each, until one gives
an answer or a failure that ends the whole lookup; `last` is the failure if there are no more
nameservers.  A nameserver that cannot be resolved is passed over, unless a limit was reached. -/
def tryNameservers (config : Config) (nested : Purpose → Query → Lookup Answer)
    (onward : Option (IpAddress → Lookup Answer)) (last : ResolutionError) :
    List Name → Lookup Answer
  | [] => return .error last
  | name :: names => do
    match ← nested .nameserver ⟨name, .a⟩ with
    | .error error =>
      if error.isLimit then return .error error
      else tryNameservers config nested onward last names
    | .ok records =>
      match addressesOf records with
      | [] => tryNameservers config nested onward last names
      | servers =>
        match ← tryServers config onward servers with
        | .ok records => return .ok records
        | .error error =>
          if error.isLookupWide then return .error error
          else tryNameservers config nested onward error names

/-- Looks up the name that an alias stands for and reports what is found under the query. -/
def chase (nested : Purpose → Query → Lookup Answer) (query : Query) (target : Name) :
    Lookup Answer := do
  match ← nested .aliasTarget { query with name := target } with
  | .ok records => return .ok (records.map (·.rekeyed query))
  | .error error => return .error (error.forAlias target)

/-- Goes on as the response of a server means for a query.  Answers that do not help may still do so
together with an alias that is known. -/
def act (config : Config) (nested : Purpose → Query → Lookup Answer)
    (onward : Option (IpAddress → Lookup Answer)) (query : Query) (server : IpAddress) :
    Verdict → Lookup Answer
  | .final records => return .ok records
  | .refused => return .error (.refused server)
  | .aliased target => chase nested query target
  | .unusable => do
    match (← get).knownAlias? query with
    | some target => chase nested query target
    | none => return .error .noUsableAnswer
  | .servers addresses => tryServers config onward addresses
  | .nameservers names =>
    tryNameservers config nested onward .unresolvableNameservers names
  | .deadEnd => return .error .noNameservers

/-- Resolves a query at a server: from what is known, if that is enough, and otherwise by asking.
`nested` looks up another name from the root, and `onward` resolves the query at a server that was
referred to, if one more referral may be followed. -/
def resolveAt (config : Config) (nested : Purpose → Query → Lookup Answer)
    (onward : Option (IpAddress → Lookup Answer)) (query : Query) (server : IpAddress) :
    Lookup Answer := do
  match (← get).known query with
  | [] =>
    match (← get).knownAlias? query with
    | some target => chase nested query target
    | none =>
      match ← ask config query server with
      | .error error => return .error error
      | .ok message =>
        modify (·.learn message)
        act config nested onward query server (message.verdict config query)
  | records => return .ok records

/-! ## The two recursions -/

/-- Notes that a visit begins and ends. -/
def visiting (visit : Visit) (body : Lookup Answer) : Lookup Answer := do
  note (.entered visit)
  let answer ← body
  note (.left visit answer)
  return answer

/-- Resolves a query at a server when a number of referrals may still be followed. -/
def descend (config : Config) (nested : Purpose → Query → Lookup Answer) (depth : Nat)
    (query : Query) : (referralsLeft : Nat) → Purpose → IpAddress → Lookup Answer
  | 0, purpose, server =>
    visiting ⟨purpose, query, server, depth, config.maxReferrals⟩
      (resolveAt config nested none query server)
  | left + 1, purpose, server =>
    visiting ⟨purpose, query, server, depth, config.maxReferrals - (left + 1)⟩
      (resolveAt config nested (some (descend config nested depth query left .referral))
        query server)

/-- Resolves a query from the root when a number of names may still be looked up, one inside the
other, the name of the query being the first of them. -/
def resolve (config : Config) : (levelsLeft : Nat) → Purpose → Query → Lookup Answer
  | 0, purpose, query =>
    visiting ⟨purpose, query, config.rootServer, config.maxIndirection + 1, 0⟩
      (return .error (.indirectionLimit config.maxIndirection))
  | left + 1, purpose, query =>
    descend config (resolve config left) (config.maxIndirection - left) query
      config.maxReferrals purpose config.rootServer

/-- A whole lookup; its failure is reported. -/
def whole (config : Config) (query : Query) : Lookup Answer := do
  let answer ← resolve config (config.maxIndirection + 1) .lookup query
  if let .error reason := answer then announce (.failed query reason)
  return answer

end Lookup

namespace Resolver

/-! ## The resolver from outside -/

/-- A resolver that has seen nothing yet, at the start of time. -/
def ofConfig (config : Config) : Resolver where
  config := config
  memory := { cache := .empty config.normalizeNames, tracer := {}, now := 0 }

/-- Looks up the records of a type under a name. -/
def lookup (resolver : Resolver) (query : Query) : Dialogue (Answer × Resolver) := do
  let (answer, memory) ← StateT.run (Lookup.whole resolver.config query) resolver.memory
  return (answer, { resolver with memory })

/-- Chooses another server to start at. -/
def setRootServer (server : IpAddress) (resolver : Resolver) : Resolver :=
  { resolver with config := { resolver.config with rootServer := server } }

/-- Turns the reports on or off. -/
def setVerbose (verbose : Bool) (resolver : Resolver) : Resolver :=
  { resolver with
    memory := { resolver.memory with tracer := { resolver.memory.tracer with verbose } } }

/-- Adds a subscriber to the reports, whose number is the second component. -/
def subscribe (resolver : Resolver) : Resolver × Nat :=
  let (tracer, subscriber) := resolver.memory.tracer.subscribe
  ({ resolver with memory := { resolver.memory with tracer } }, subscriber)

/-- Removes a subscriber to the reports. -/
def unsubscribe (subscriber : Nat) (resolver : Resolver) : Resolver :=
  let tracer := resolver.memory.tracer.unsubscribe subscriber
  { resolver with memory := { resolver.memory with tracer } }

/-- Takes the reports that a subscriber has not collected yet. -/
def collect (subscriber : Nat) (resolver : Resolver) : List TraceEvent × Resolver :=
  let (events, tracer) := resolver.memory.tracer.collect subscriber
  (events, { resolver with memory := { resolver.memory with tracer } })

/-- Lets time pass between lookups. -/
def wait (milliseconds : Nat) (resolver : Resolver) : Resolver :=
  { resolver with memory := resolver.memory.wait milliseconds }

/-- The records for a query that are known and have not expired. -/
def known (resolver : Resolver) (query : Query) : List Record := resolver.memory.known query

end Resolver

end IterativeDns
