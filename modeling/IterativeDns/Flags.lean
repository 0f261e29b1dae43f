import IterativeDns.ResponseCode

/-!
# Flags of a message

This file holds the sixteen flag bits of a message header and gives access to their fields: the
query bit, the kind of query, four more single bits, three reserved bits, and the response code.
Writing a field keeps only the low bits that fit and leaves all other fields alone.
-/

namespace IterativeDns

/-- The flag bits of a message header. -/
structure Flags where
  /-- The sixteen bits, the query bit being the highest. -/
  bits : UInt16
deriving DecidableEq, Repr

namespace Flags

/-! ## Fields -/

/-- The mask of a field of `width` bits whose lowest bit is `low`. -/
def mask (low width : UInt16) : UInt16 := ((1 <<< width) - 1) <<< low

/-- The value of a field. -/
def field (low width : UInt16) (flags : Flags) : UInt16 :=
  (flags.bits &&& mask low width) >>> low

/-- The flags with a new value in a field. -/
def setField (low width : UInt16) (value : UInt16) (flags : Flags) : Flags :=
  ⟨(flags.bits &&& ~~~(mask low width)) ||| ((value <<< low) &&& mask low width)⟩

/-- The bit at a place. -/
def bit (place : UInt16) (flags : Flags) : Bool := field place 1 flags == 1

/-- The flags with a new bit at a place. -/
def setBit (place : UInt16) (value : Bool) (flags : Flags) : Flags :=
  setField place 1 (if value then 1 else 0) flags

/-- No flag is set. -/
def none : Flags := ⟨0⟩

/-- The message is a response. -/
def isResponse : Flags → Bool := bit 15

/-- The kind of query. -/
def operation : Flags → UInt16 := field 11 4

/-- The server is an authority for the name. -/
def isAuthoritative : Flags → Bool := bit 10

/-- The message was cut off. -/
def isTruncated : Flags → Bool := bit 9

/-- The client asks the server to recurse. -/
def recursionDesired : Flags → Bool := bit 8

/-- The server is able to recurse. -/
def recursionAvailable : Flags → Bool := bit 7

/-- The reserved bits. -/
def reserved : Flags → UInt16 := field 4 3

/-- The response code. -/
def responseCode (flags : Flags) : UInt8 := (field 0 4 flags).toUInt8

/-- Says whether the message is a response. -/
def setResponse : Bool → Flags → Flags := setBit 15

/-- Sets the kind of query. -/
def setOperation : UInt16 → Flags → Flags := setField 11 4

/-- Says whether the server is an authority. -/
def setAuthoritative : Bool → Flags → Flags := setBit 10

/-- Says whether the message was cut off. -/
def setTruncated : Bool → Flags → Flags := setBit 9

/-- Says whether the server should recurse. -/
def setRecursionDesired : Bool → Flags → Flags := setBit 8

/-- Says whether the server is able to recurse. -/
def setRecursionAvailable : Bool → Flags → Flags := setBit 7

/-- Sets the reserved bits. -/
def setReserved : UInt16 → Flags → Flags := setField 4 3

/-- Sets the response code. -/
def setResponseCode : UInt16 → Flags → Flags := setField 0 4

/-- The flags of an outgoing query: it desires recursion and nothing else. -/
def ofQuery : Flags := none.setRecursionDesired true

/-- How the query went. -/
def response (flags : Flags) : ResponseCode := .ofCode flags.responseCode

end Flags

end IterativeDns
