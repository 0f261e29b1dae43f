import IterativeDns.Flags
import IterativeDns.Wire.Reader

/-!
# Message headers

This file holds the fixed part at the front of every message: its identifier, its flags and the
number of entries in each section.  A header that is cut short is read as if zeros followed.
-/

namespace IterativeDns

/-- The header of a message. -/
structure Header where
  /-- The identifier that a response shares with its query. -/
  id : UInt16
  /-- The flags. -/
  flags : Flags
  /-- The number of questions. -/
  questions : UInt16
  /-- The number of answers. -/
  answers : UInt16
  /-- The number of records that name authorities. -/
  authorities : UInt16
  /-- The number of additional records. -/
  additionals : UInt16
deriving DecidableEq, Repr

namespace Header

/-- The header of a message without entries. -/
def empty (id : UInt16) (flags : Flags) : Header := ⟨id, flags, 0, 0, 0, 0⟩

/-- The header with other numbers of entries, in the order of the sections. -/
def declaring (header : Header) (counts : Vector UInt16 4) : Header :=
  { header with
    questions := counts[0]
    answers := counts[1]
    authorities := counts[2]
    additionals := counts[3] }

/-- The number of octets of an encoded header. -/
def length : Nat := 12

/-- The encoded header. -/
def encode (header : Header) : Octets :=
  [header.id, header.flags.bits, header.questions, header.answers, header.authorities,
    header.additionals].flatMap Octets.ofUInt16

/-- Reads a header. -/
def decode : Decoder Header := do
  let id ← Decoder.uint16Padded
  let flags ← Decoder.uint16Padded
  let questions ← Decoder.uint16Padded
  let answers ← Decoder.uint16Padded
  let authorities ← Decoder.uint16Padded
  let additionals ← Decoder.uint16Padded
  return { id, flags := ⟨flags⟩, questions, answers, authorities, additionals }

/-- An encoded header has twelve octets. -/
@[simp] theorem length_encode (header : Header) : header.encode.length = length := by
  simp [encode, length]

end Header

end IterativeDns
