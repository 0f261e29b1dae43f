import IterativeDns.Name.Basic
import IterativeDns.Wire.Reader

/-!
# Names in a message

This file reads domain names from a message.  A name in a message is a sequence of labels that
ends in a zero octet or in a pointer, that is, in two octets whose top bits are set and which
give the offset at which the name goes on.  Pointers may lead anywhere in the message; an offset
that comes up twice in one name is a loop.  The reader ends up after the first pointer, or after
the zero octet if there is no pointer.
-/

namespace IterativeDns

/-- The fault of a text that is not a domain name. -/
def NameError.fault (error : NameError) : WireError := .invalidName error.reason

namespace Name

/-! ## Offsets not yet seen -/

/-- How many offsets below a bound are not in a list. -/
def unseen (bound : Nat) (seen : List Nat) : Nat :=
  ((List.range bound).filter fun offset => !seen.contains offset).length

/-- One more offset in the list leaves fewer unseen. -/
theorem unseen_cons_lt {bound offset : Nat} {seen : List Nat} (hbound : offset < bound)
    (hseen : offset ∉ seen) : unseen bound (offset :: seen) < unseen bound seen := by
  have split : (List.range bound).filter (fun i => !(offset :: seen).contains i) =
      ((List.range bound).filter fun i => !seen.contains i).filter fun i => !decide (i = offset) := by
    rw [List.filter_filter]
    congr 1
    funext i
    simp
  rw [unseen, unseen, split]
  exact List.length_filter_lt_length_iff_exists.2 ⟨offset, by simp [hbound, hseen], by simp⟩

/-! ## Following a name through a message -/

/-- The least first octet of a pointer; the octets from 64 up to it are reserved. -/
def pointerMark : UInt8 := 0xc0

/-- The least octet that is no length of a label. -/
def reservedMark : UInt8 := 0x40

/-- The offset that a pointer gives in its low fourteen bits. -/
def pointerTarget (first second : UInt8) : Nat := (first.toNat % 64) * 256 + second.toNat

/-- The labels of the name at an offset of the message and the offset after the part of it that
stands there.  `seen` holds the offsets already visited for this name, and `used` the octets that
its labels so far, and the zero at its end, take when they are encoded. -/
def expand (buffer : Array UInt8) (offset : Nat) (seen : List Nat) (used : Nat) :
    Except WireError (List Octets × Nat) :=
  if h : offset < buffer.size ∧ offset ∉ seen then
    let first := buffer[offset]
    if pointerMark ≤ first then
      match buffer[offset + 1]? with
      | none => .error (.malformedName offset)
      | some second =>
        match expand buffer (pointerTarget first second) (offset :: seen) used with
        | .error error => .error error
        | .ok (labels, _) => .ok (labels, offset + 2)
    else if reservedMark ≤ first then .error (.malformedName offset)
    else if first = 0 then .ok ([], offset + 1)
    else
      let stop := offset + 1 + first.toNat
      let used := used + first.toNat + 1
      if stop ≤ buffer.size ∧ used ≤ maxNameLength then
        match expand buffer stop (offset :: seen) used with
        | .error error => .error error
        | .ok (labels, resume) =>
          .ok ((buffer.extract (offset + 1) stop).toList :: labels, resume)
      else .error (.malformedName offset)
  else .error (.malformedName offset)
termination_by unseen buffer.size seen
decreasing_by
  all_goals exact unseen_cons_lt h.1 h.2

/-- Reads a name.  At the end of the message there is none to read; any other fault is that of a
malformed name.  A failure does not move the reader. -/
def decode : Decoder Name := do
  let _ ← Decoder.peek 1
  fun reader =>
    match expand reader.buffer reader.position [] 1 with
    | .error error => .error error reader
    | .ok (labels, resume) => .ok (ofRawLabels labels) { reader with position := resume }

example : (Decoder.run decode [3, 0x77, 0x77, 0x77, 0]).toOption = some ⟨"www"⟩ := by
  decide +kernel

example : (Decoder.run decode [1, 0x61, 0xc0, 0]).toOption = none := by decide +kernel

end Name

end IterativeDns
