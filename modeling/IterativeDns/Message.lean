import IterativeDns.Header
import IterativeDns.Record.Basic

/-!
# Messages

This file holds messages: a header, at most one question, and three sections of records.  The
header declares how many entries each part has; adding an entry counts it, and reading a message
reads as many as declared.  A response code after which the body means nothing is reported before
the body is read, and octets after the last record are ignored.
-/

namespace IterativeDns

/-- A part of a message that holds records. -/
inductive Section where
  /-- Records that answer the question. -/
  | answer
  /-- Records that name authorities. -/
  | authority
  /-- Records that may help. -/
  | additional
deriving DecidableEq, Repr

/-- The sections in the order in which they stand in a message. -/
def Section.all : List Section := [answer, authority, additional]

/-- The heading of a section. -/
def Section.title : Section → String
  | answer => "Answers"
  | authority => "Nameservers"
  | additional => "Additional Information"

/-- A message. -/
structure Message where
  /-- The header, with the declared number of entries. -/
  header : Header
  /-- The question. -/
  question : Option Question
  /-- Records that answer the question. -/
  answers : List Record
  /-- Records that name authorities. -/
  authorities : List Record
  /-- Records that may help. -/
  additionals : List Record
deriving DecidableEq, Repr

namespace Message

/-! ## Building -/

/-- The message with a header and nothing else. -/
def ofHeader (header : Header) : Message := ⟨header, none, [], [], []⟩

/-- Adds the question. -/
def addQuestion (question : Question) (message : Message) : Message :=
  { message with
    header := { message.header with questions := 1 }
    question := some question }

/-- Adds a record to the answers. -/
def addAnswer (record : Record) (message : Message) : Message :=
  { message with
    header := { message.header with answers := message.header.answers + 1 }
    answers := message.answers ++ [record] }

/-- Adds a record to the authorities. -/
def addAuthority (record : Record) (message : Message) : Message :=
  { message with
    header := { message.header with authorities := message.header.authorities + 1 }
    authorities := message.authorities ++ [record] }

/-- Adds an additional record. -/
def addAdditional (record : Record) (message : Message) : Message :=
  { message with
    header := { message.header with additionals := message.header.additionals + 1 }
    additionals := message.additionals ++ [record] }

/-- The message that asks a query under an identifier. -/
def ofQuery (id : UInt16) (query : Query) : Message :=
  (ofHeader (.empty id .ofQuery)).addQuestion (.ofQuery query)

/-! ## Parts -/

/-- The identifier. -/
def id (message : Message) : UInt16 := message.header.id

/-- The sender is an authority for the name asked about. -/
def isAuthoritative (message : Message) : Bool := message.header.flags.isAuthoritative

/-- How the query went. -/
def response (message : Message) : ResponseCode := message.header.flags.response

/-- The records of a section. -/
def recordsOf (message : Message) : Section → List Record
  | .answer => message.answers
  | .authority => message.authorities
  | .additional => message.additionals

/-- All records in the order in which they stand in the message, each with its section. -/
def tagged (message : Message) : List (Section × Record) :=
  Section.all.flatMap fun part => (message.recordsOf part).map (part, ·)

/-- All records in the order in which they stand in the message. -/
def records (message : Message) : List Record :=
  message.answers ++ message.authorities ++ message.additionals

/-- The tagged records are the records with their sections. -/
theorem map_snd_tagged (message : Message) :
    message.tagged.map Prod.snd = message.records := by
  simp [tagged, records, Section.all, recordsOf, Function.comp_def]

/-! ## Encoding -/

/-- The encoded message. -/
def encode (message : Message) : Octets :=
  message.header.encode ++ (message.question.map Question.encode).getD [] ++
    message.records.flatMap Record.encode

/-- Reads as many questions as declared, of which there may be at most one. -/
def decodeQuestion (count : UInt16) : Decoder (Option Question) :=
  if count = 0 then return none
  else if count = 1 then return some (← Question.decode)
  else throw (.multipleQuestions count)

/-- Reads a message. -/
def read : Decoder Message := do
  let header ← Header.decode
  if let some fault := header.flags.response.fault? then throw fault
  let question ← decodeQuestion header.questions
  let answers ← Decoder.times Record.decode header.answers.toNat
  let authorities ← Decoder.times Record.decode header.authorities.toNat
  let additionals ← Decoder.times Record.decode header.additionals.toNat
  return { header, question, answers, authorities, additionals }

/-- The message that a datagram holds. -/
def decode (octets : Octets) : Except WireError Message := Decoder.run read octets

end Message

end IterativeDns
