import IterativeDns.Resolution.Dialogue

/-!
# Scripted networks

This file holds networks that answer by a script: rules say which queries at which server they are
about and what comes back, one reply after the other, the last one again and again.  A query that
no rule is about fails at once.  Dialogues held with such a network show what a resolver does.
-/

namespace IterativeDns

/-- What a script makes happen after a query. -/
inductive ScriptedEffect where
  /-- No reply ever comes. -/
  | silence
  /-- Sending or receiving fails, for a reason, or because the time to wait is over. -/
  | failure (reason : Option String)
  /-- Octets come back, the first two of them overwritten by the identifier of the query and a
  difference to it. -/
  | octets (payload : Octets) (idDifference : UInt16)
  /-- A message comes back under the identifier of the query and a difference to it.  It may repeat
  the question of the query, and its header may declare other numbers of entries than it has. -/
  | message (draft : Message) (idDifference : UInt16) (repeatsQuestion : Bool)
      (declared : Option (Vector UInt16 4))

/-- What a script makes happen after a query, and the time that passes before it does. -/
structure ScriptedReply where
  /-- The milliseconds that pass. -/
  delay : Nat
  /-- What happens then. -/
  effect : ScriptedEffect

/-- A response that comes back at once, from an authority or not, with what is added to it. -/
def ScriptedReply.response (isAuthoritative : Bool) (add : Message → Message) : ScriptedReply :=
  let flags := (Flags.none.setResponse true).setAuthoritative isAuthoritative
  ⟨0, .message (add (.ofHeader (.empty 0 flags))) 0 true none⟩

/-- A rule of a script. -/
structure ScriptRule where
  /-- The server that is asked. -/
  server : IpAddress
  /-- The name that is asked about, in any case, or any name. -/
  name : Option Name
  /-- The type that is asked for, or any type. -/
  type : Option RecordType
  /-- What happens, one after the other. -/
  replies : List ScriptedReply

/-- A script: its rules, as far as they have not been used, and the next identifier to draw. -/
structure Script where
  /-- The rules; the first that is about a query counts. -/
  rules : List ScriptRule
  /-- The next identifier. -/
  nextId : UInt16

namespace ScriptedEffect

/-- The message that comes back for a query. -/
def responseTo (asked draft : Message) (idDifference : UInt16) (repeatsQuestion : Bool)
    (declared : Option (Vector UInt16 4)) : Message :=
  let response := { draft with header := { draft.header with id := asked.id + idDifference } }
  let response := match asked.question with
    | some question => if repeatsQuestion then response.addQuestion question else response
    | none => response
  match declared with
  | some counts => { response with header := response.header.declaring counts }
  | none => response

/-- What comes of a request that asks a query, if anything ever does. -/
def reply? (request : Request) (asked : Message) : ScriptedEffect → Option Reply
  | silence => none
  | failure none => some (.failure (.timeout request.server))
  | failure (some reason) => some (.failure (.socket reason))
  | octets payload idDifference =>
    let id := Octets.ofUInt16 (asked.id + idDifference)
    some (.datagram (id.take payload.length ++ payload.drop 2))
  | message draft idDifference repeatsQuestion declared =>
    some (.datagram (responseTo asked draft idDifference repeatsQuestion declared).encode)

end ScriptedEffect

namespace ScriptRule

/-- The rule is about a question at a server. -/
def isAbout (server : IpAddress) (question : Question) (rule : ScriptRule) : Bool :=
  rule.server == server && rule.name.all (·.normalized == question.name.normalized) &&
    rule.type.all (· == question.type)

/-- The rule after one more use. -/
def used (rule : ScriptRule) : ScriptRule :=
  match rule.replies with
  | _ :: next :: replies => { rule with replies := next :: replies }
  | _ => rule

/-- What comes of a request by the rule. -/
def delivery (request : Request) (asked : Message) (rule : ScriptRule) : Delivery :=
  match rule.replies with
  | [] => .after 0 (.failure (.timeout request.server))
  | reply :: _ =>
    match reply.effect.reply? request asked with
    | none => .never
    | some answer => .after reply.delay answer

/-- What comes of a request by the first rule that is about it, and the rules afterwards. -/
def play (request : Request) (asked : Message) (question : Question) :
    List ScriptRule → Delivery × List ScriptRule
  | [] => (.after 0 (.failure (.timeout request.server)), [])
  | rule :: rules =>
    if rule.isAbout request.server.address question then
      (rule.delivery request asked, rule.used :: rules)
    else
      let (delivery, rules) := play request asked question rules
      (delivery, rule :: rules)

end ScriptRule

namespace Script

/-- What comes of a request by the script. -/
def deliver (script : Script) (request : Request) : Delivery × Script :=
  match Message.decode request.payload with
  | .error _ => (.after 0 (.failure (.timeout request.server)), script)
  | .ok asked =>
    match asked.question with
    | none => (.after 0 (.failure (.timeout request.server)), script)
    | some question =>
      let (delivery, rules) := ScriptRule.play request asked question script.rules
      (delivery, { script with rules })

/-- The network that answers by a script; identifiers are drawn in turn. -/
def network : Network Script where
  drawId script := (script.nextId, { script with nextId := script.nextId + 1 })
  deliver := deliver

/-- A network on which nothing is answered. -/
def silent : Script := ⟨[], 0⟩

end Script

/-- The requests of a transcript. -/
def Transcript.requests (transcript : Transcript) : List Request :=
  transcript.filterMap fun
    | .exchanged request _ => some request
    | _ => none

end IterativeDns
