import IterativeDns.Wire.Error
import IterativeDns.Wire.Octets

/-!
# Reading a message

This file holds the reader that every decoder works on: the whole message, kept because names
may refer to any part of it, and the position of the next octet.  A decoder may fail, and the
position at which it fails is kept too.  Strict reads fail without moving when the octets they
want are not all there; one read fills up with zeros instead, for the header alone.
-/

namespace IterativeDns

/-- A message and the position of the next octet to read. -/
structure Reader where
  /-- The octets of the whole message. -/
  buffer : Array UInt8
  /-- The position of the next octet. -/
  position : Nat
deriving DecidableEq, Repr

/-- A step that reads from a message; a failure keeps the position at which it arose. -/
abbrev Decoder (α : Type) := EStateM WireError Reader α

namespace Reader

/-- A reader at the start of a message. -/
def ofOctets (octets : Octets) : Reader := ⟨octets.toArray, 0⟩

/-- The length of the whole message. -/
def length (reader : Reader) : Nat := reader.buffer.size

/-- The number of octets from the position to the end. -/
def remaining (reader : Reader) : Nat := reader.length - reader.position

/-- At most `count` octets from the position on. -/
def ahead (reader : Reader) (count : Nat) : Octets :=
  (reader.buffer.extract reader.position (reader.position + count)).toList

/-- The fault of wanting `count` octets that are not there. -/
def outOfBounds (reader : Reader) (count : Nat) : WireError :=
  .outOfBounds reader.position count reader.length

end Reader

namespace Decoder

/-- Moves to a position, which may be the end but not past it. -/
def moveTo (position : Nat) : Decoder Unit := fun reader =>
  if position ≤ reader.length then .ok () { reader with position }
  else .error (.outOfBounds position 0 reader.length) reader

/-- The next `count` octets, without moving. -/
def peek (count : Nat) : Decoder Octets := fun reader =>
  if count ≤ reader.remaining then .ok (reader.ahead count) reader
  else .error (reader.outOfBounds count) reader

/-- Reads the next `count` octets. -/
def take (count : Nat) : Decoder Octets := fun reader =>
  if count ≤ reader.remaining then
    .ok (reader.ahead count) { reader with position := reader.position + count }
  else .error (reader.outOfBounds count) reader

/-- Passes over the next `count` octets. -/
def skip (count : Nat) : Decoder Unit := do
  let _ ← take count

/-- Reads `count` octets, with zeros for those past the end. -/
def takePadded (count : Nat) : Decoder Octets := fun reader =>
  let available := min count reader.remaining
  .ok (reader.ahead available ++ List.replicate (count - available) 0)
    { reader with position := reader.position + available }

/-- The next octet, without moving. -/
def peekUInt8 : Decoder UInt8 := return UInt8.ofNat (Octets.toNat (← peek 1))

/-- Reads one octet. -/
def uint8 : Decoder UInt8 := return UInt8.ofNat (Octets.toNat (← take 1))

/-- Reads a 16-bit word. -/
def uint16 : Decoder UInt16 := return UInt16.ofNat (Octets.toNat (← take 2))

/-- Reads a 32-bit word. -/
def uint32 : Decoder UInt32 := return UInt32.ofNat (Octets.toNat (← take 4))

/-- Reads a 16-bit word, with zeros for octets past the end. -/
def uint16Padded : Decoder UInt16 := return UInt16.ofNat (Octets.toNat (← takePadded 2))

/-- Repeats a step a number of times and lists the values. -/
def times {α : Type} (step : Decoder α) : Nat → Decoder (List α)
  | 0 => return []
  | count + 1 => do
    let first ← step
    let rest ← times step count
    return first :: rest

/-- The outcome of a step on a message from its start. -/
def run {α : Type} (step : Decoder α) (octets : Octets) : Except WireError α :=
  match step (Reader.ofOctets octets) with
  | .ok value _ => .ok value
  | .error error _ => .error error

/-! ## Moving and failing -/

/-- A read that finds its octets returns them and moves past them. -/
theorem take_of_le {count : Nat} {reader : Reader} (h : count ≤ reader.remaining) :
    take count reader =
      .ok (reader.ahead count) { reader with position := reader.position + count } := by
  simp [take, h]

/-- A read that lacks octets fails and does not move. -/
theorem take_of_lt {count : Nat} {reader : Reader} (h : reader.remaining < count) :
    take count reader = .error (reader.outOfBounds count) reader := by
  simp [take, Nat.not_le.2 h]

end Decoder

end IterativeDns
