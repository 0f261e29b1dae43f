import IterativeDns.Config
import IterativeDns.Message
import IterativeDns.Resolution.Error

/-!
# What a response means

This file decides whether a message is the response to a query, and what an accepted response means
for the query: a final answer, an alias, a referral to servers or to nameservers, or nothing that
helps.
-/

namespace IterativeDns

/-! ## Accepting a response -/

/-- What is wrong with a message as the response to the query with an identifier. -/
def Message.mismatch? (id : UInt16) (message : Message) : Option WireError :=
  if !message.header.flags.isResponse then some .notAResponse
  else if message.id ≠ id then some (.idMismatch id message.id)
  else none

/-- The message that a datagram holds, if it is the response to the query with an identifier. -/
def Message.accept (id : UInt16) (payload : Octets) : Except WireError Message :=
  match Message.decode payload with
  | .error fault => .error fault
  | .ok message =>
    match message.mismatch? id with
    | some fault => .error fault
    | none => .ok message

/-! ## Reading a response -/

/-- The names count as the same name. -/
def Config.sameName (config : Config) (a b : Name) : Bool :=
  if config.normalizeNames then a.normalized == b.normalized else a == b

/-- What a response means for a query. -/
inductive Verdict where
  /-- The records are the answer. -/
  | final (records : List Record)
  /-- The server refuses to answer. -/
  | refused
  /-- The name is an alias. -/
  | aliased (target : Name)
  /-- There are answers, but none that helps. -/
  | unusable
  /-- The servers at these addresses know more. -/
  | servers (addresses : List IpAddress)
  /-- The nameservers of these names know more. -/
  | nameservers (names : List Name)
  /-- There is nothing to go on with. -/
  | deadEnd
deriving DecidableEq, Repr

/-- The distinct addresses that records hold, in the order in which they come first. -/
def addressesOf (records : List Record) : List IpAddress :=
  (records.filterMap (·.data.address?)).eraseDups

namespace Message

/-- The answers to a query itself. -/
def direct (config : Config) (query : Query) (message : Message) : List Record :=
  message.answers.filter fun record =>
    record.type == query.type && config.sameName record.name query.name

/-- The name that the answers give the queried name an alias for. -/
def alias? (config : Config) (query : Query) (message : Message) : Option Name :=
  (message.answers.filter fun record => config.sameName record.name query.name).findSome?
    (·.data.aliasTarget?)

/-- The distinct addresses of servers that come with a referral. -/
def glue (message : Message) : List IpAddress :=
  addressesOf (message.additionals.filter (·.type == .a))

/-- The distinct nameservers that a referral names. -/
def delegates (message : Message) : List Name :=
  (message.authorities.filterMap (·.data.nameserver?)).eraseDups

/-- What the answers mean for a query. -/
def answerVerdict (config : Config) (query : Query) (message : Message) : Verdict :=
  if message.answers.isEmpty then .final []
  else if query.type = .any then .final message.answers
  else
    match message.direct config query with
    | [] =>
      match message.alias? config query with
      | some target => .aliased target
      | none => .unusable
    | records => .final records

/-- What a referral says. -/
def referralVerdict (message : Message) : Verdict :=
  match message.glue with
  | [] =>
    match message.delegates with
    | [] => .deadEnd
    | names => .nameservers names
  | addresses => .servers addresses

/-- What the response means for a query. -/
def verdict (config : Config) (query : Query) (message : Message) : Verdict :=
  if message.response = .nameError then .final []
  else if message.response = .refused then .refused
  else if message.isAuthoritative || !message.answers.isEmpty then
    message.answerVerdict config query
  else message.referralVerdict

end Message

end IterativeDns
