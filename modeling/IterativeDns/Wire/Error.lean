import IterativeDns.RecordType

/-!
# Faults of a message

This file lists what can be wrong with the octets of a single message, or with a name that
should go into one, and words each fault.
-/

namespace IterativeDns

/-- A fault of a single message. -/
inductive WireError where
  /-- A read of `wanted` octets at `offset` runs past the end of a message of `length` octets. -/
  | outOfBounds (offset wanted length : Nat)
  /-- A name is malformed, or loops, at an offset. -/
  | malformedName (offset : Nat)
  /-- A text is not a domain name, for the reason given. -/
  | invalidName (reason : String)
  /-- The server could not interpret the query. -/
  | formatError
  /-- The server failed. -/
  | serverFailure
  /-- The server does not support the kind of query. -/
  | notImplemented
  /-- The response code has no meaning here. -/
  | unknownResponseCode (code : UInt8)
  /-- The message carries more than one question. -/
  | multipleQuestions (count : UInt16)
  /-- The data of a record was declared with another length than it turned out to have. -/
  | dataLength (type : RecordType) (declared : UInt16) (consumed : Nat)
  /-- The response answers another query. -/
  | idMismatch (expected received : UInt16)
  /-- The message is a query. -/
  | notAResponse
deriving DecidableEq, Repr

/-- A message identifier in hexadecimal, with at least four digits. -/
def identifierText (id : UInt16) : String :=
  "0x" ++ String.ofList (Text.numeralOfWidth 16 4 id.toNat)

namespace WireError

/-- The fault in words. -/
def message : WireError → String
  | outOfBounds offset wanted length =>
    s!"read of {wanted} bytes at offset {offset} runs past the end of a {length} byte message"
  | malformedName offset => s!"malformed or looping name at offset {offset}"
  | invalidName reason => "invalid domain name: " ++ reason
  | formatError => "format error: the server was unable to interpret the query"
  | serverFailure => "server failure"
  | notImplemented => "query kind not implemented by the server"
  | unknownResponseCode code => s!"unknown response code {code.toNat}"
  | multipleQuestions count =>
    s!"message carries {count.toNat} questions, only one is supported"
  | dataLength type declared consumed =>
    s!"{type.text} record declared {declared.toNat} bytes of data but {consumed} were consumed"
  | idMismatch expected received =>
    s!"response id {identifierText received} does not match query id {identifierText expected}"
  | notAResponse => "message is not a response"

end WireError

end IterativeDns
