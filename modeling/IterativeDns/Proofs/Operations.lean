import IterativeDns.Proofs.Reading
import Mathlib.Data.List.Induction

/-!
# Operations on a reader

A decoder moves its reader about in a message that anyone may have sent, by eight operations whose
arguments may come from that message.  This file says for each operation what it yields and where
the reader is afterwards, and shows that no sequence of them, whether they succeed or fail, takes
the reader out of its message.

* `Reader.Operation` — the operations, and `Reader.Operation.run`, which performs one of them.
* `Reader.Performs` — the rules: one for each operation that succeeds, and two for those that fail.
* `Reader.run_eq_iff` — an operation does what the rules say, and the rules leave no choice.
* `Reader.operations_stay_inside` — **a reader stays inside its message, and reads what is there.**
-/

namespace IterativeDns

namespace Octets

/-- Octets are the number that they denote, written with as many octets. -/
theorem bigEndian_toNat (octets : Octets) : bigEndian octets.length (toNat octets) = octets := by
  induction octets using List.reverseRecOn with
  | nil => rfl
  | append_singleton octets octet ih =>
    have hlt := octet.toNat_lt
    have hrest : (toNat octets * 256 + octet.toNat) / 256 = toNat octets := by omega
    have hlast : UInt8.ofNat (toNat octets * 256 + octet.toNat) = octet := by
      rw [← UInt8.toNat_inj, UInt8.toNat_ofNat']
      omega
    rw [List.length_append, List.length_singleton, toNat_append_singleton, bigEndian, hrest, ih,
      hlast]

theorem toNat_lt (octets : Octets) : toNat octets < Nat.pow 256 octets.length := by
  rw [← bigEndian_toNat octets, toNat_bigEndian, length_bigEndian]
  exact Nat.mod_lt _ (Nat.pow_pos (by omega))

theorem toNat_singleton (octet : UInt8) : toNat [octet] = octet.toNat := by
  simp [toNat]

theorem eq_singleton_of_length {octets : Octets} (h : octets.length = 1) :
    octets = [UInt8.ofNat (toNat octets)] := by
  obtain ⟨octet, rfl⟩ := List.length_eq_one_iff.1 h
  rw [toNat_singleton, UInt8.ofNat_toNat]

theorem eq_ofUInt16_of_length {octets : Octets} (h : octets.length = 2) :
    octets = ofUInt16 (UInt16.ofNat (toNat octets)) := by
  have hlt : toNat octets < 65536 := by simpa [h] using toNat_lt octets
  rw [ofUInt16, UInt16.toNat_ofNat_of_lt' hlt, ← h, bigEndian_toNat]

theorem eq_ofUInt32_of_length {octets : Octets} (h : octets.length = 4) :
    octets = ofUInt32 (UInt32.ofNat (toNat octets)) := by
  have hlt : toNat octets < 4294967296 := by simpa [h] using toNat_lt octets
  rw [ofUInt32, UInt32.toNat_ofNat_of_lt' hlt, ← h, bigEndian_toNat]

end Octets

namespace Reader

/-! ## Operations -/

/-- What can be done with a reader. -/
inductive Operation where
  /-- Move to a position. -/
  | moveTo (position : Nat)
  /-- Pass over some octets. -/
  | skip (count : Nat)
  /-- Look at the next octet. -/
  | peekUInt8
  /-- Read an octet. -/
  | uint8
  /-- Read a word of 16 bits. -/
  | uint16
  /-- Read a word of 32 bits. -/
  | uint32
  /-- Read some octets. -/
  | take (count : Nat)
  /-- Read some octets, with zeros for those past the end. -/
  | takePadded (count : Nat)

/-- What an operation yields. -/
inductive Reply where
  | nothing
  | octet (octet : UInt8)
  | word16 (word : UInt16)
  | word32 (word : UInt32)
  | octets (octets : Octets)

/-- The reply to an operation, or its fault, and the reader after it. -/
def conclude {α : Type} (reply : α → Reply) :
    EStateM.Result WireError Reader α → Except WireError Reply × Reader
  | .ok value after => (.ok (reply value), after)
  | .error fault after => (.error fault, after)

namespace Operation

/-- Performs an operation. -/
def run (reader : Reader) : Operation → Except WireError Reply × Reader
  | moveTo position => conclude (fun _ => .nothing) (Decoder.moveTo position reader)
  | skip count => conclude (fun _ => .nothing) (Decoder.skip count reader)
  | peekUInt8 => conclude .octet (Decoder.peekUInt8 reader)
  | uint8 => conclude .octet (Decoder.uint8 reader)
  | uint16 => conclude .word16 (Decoder.uint16 reader)
  | uint32 => conclude .word32 (Decoder.uint32 reader)
  | take count => conclude .octets (Decoder.take count reader)
  | takePadded count => conclude .octets (Decoder.takePadded count reader)

/-- The number of octets that must be there, for the operations that read or pass over some. -/
def wants? : Operation → Option Nat
  | skip count => some count
  | peekUInt8 => some 1
  | uint8 => some 1
  | uint16 => some 2
  | uint32 => some 4
  | take count => some count
  | moveTo _ => none
  | takePadded _ => none

end Operation

/-- The reader after operations.  It goes on from where it is when one of them fails. -/
def after (reader : Reader) (operations : List Operation) : Reader :=
  operations.foldl (fun reader operation => (operation.run reader).2) reader

/-! ## The rules -/

/-- What an operation yields, and the reader after it. -/
inductive Performs (reader : Reader) : Operation → Except WireError Reply → Reader → Prop where
  /-- A reader can be moved to any position, the end included. -/
  | moveTo {position : Nat} (h : position ≤ reader.length) :
    Performs reader (.moveTo position) (.ok .nothing) { reader with position }
  /-- It cannot be moved past the end. -/
  | beyond {position : Nat} (h : reader.length < position) :
    Performs reader (.moveTo position) (.error (.outOfBounds position 0 reader.length)) reader
  | skip {count : Nat} (h : count ≤ reader.rest.length) :
    Performs reader (.skip count) (.ok .nothing) (reader.advance count)
  /-- Looking at an octet does not move the reader. -/
  | peekUInt8 {octet : UInt8} (h : [octet] <+: reader.rest) :
    Performs reader .peekUInt8 (.ok (.octet octet)) reader
  | uint8 {octet : UInt8} (h : [octet] <+: reader.rest) :
    Performs reader .uint8 (.ok (.octet octet)) (reader.advance 1)
  | uint16 {word : UInt16} (h : Octets.ofUInt16 word <+: reader.rest) :
    Performs reader .uint16 (.ok (.word16 word)) (reader.advance 2)
  | uint32 {word : UInt32} (h : Octets.ofUInt32 word <+: reader.rest) :
    Performs reader .uint32 (.ok (.word32 word)) (reader.advance 4)
  | take {count : Nat} {octets : Octets} (hlength : octets.length = count)
      (h : octets <+: reader.rest) :
    Performs reader (.take count) (.ok (.octets octets)) (reader.advance count)
  /-- Octets that are not there are zeros, and the reader stops at the end. -/
  | takePadded (count : Nat) :
    Performs reader (.takePadded count)
      (.ok (.octets (reader.rest.take count ++
        List.replicate (count - (reader.rest.take count).length) 0)))
      (reader.advance (reader.rest.take count).length)
  /-- An operation fails, and does not move the reader, if the octets that it wants are not all
  there. -/
  | lacking {operation : Operation} {count : Nat} (hwants : operation.wants? = some count)
      (h : reader.rest.length < count) :
    Performs reader operation (.error (.outOfBounds reader.position count reader.length)) reader

variable {reader next : Reader} {operation : Operation} {outcome : Except WireError Reply}

/-- There is a rule for every case: the octets that an operation wants are there, or they are
not. -/
theorem exists_performs (reader : Reader) (operation : Operation) :
    ∃ outcome next, Performs reader operation outcome next := by
  by_cases hlacks : ∃ count, operation.wants? = some count ∧ reader.rest.length < count
  · obtain ⟨count, hwants, hlt⟩ := hlacks
    exact ⟨_, _, .lacking hwants hlt⟩
  · have henough : ∀ count, operation.wants? = some count → count ≤ reader.rest.length :=
      fun count hwants => Nat.not_lt.1 fun hlt => hlacks ⟨count, hwants, hlt⟩
    have hthere : ∀ count, operation.wants? = some count →
        ∃ octets : Octets, octets.length = count ∧ octets <+: reader.rest := fun count hwants =>
      ⟨reader.rest.take count, List.length_take_of_le (henough count hwants),
        List.take_prefix count reader.rest⟩
    cases operation with
    | moveTo position =>
      rcases Nat.lt_or_ge reader.length position with hbeyond | hinside
      · exact ⟨_, _, .beyond hbeyond⟩
      · exact ⟨_, _, .moveTo hinside⟩
    | skip count => exact ⟨_, _, .skip (henough count rfl)⟩
    | peekUInt8 =>
      obtain ⟨octets, hlength, hahead⟩ := hthere 1 rfl
      rw [Octets.eq_singleton_of_length hlength] at hahead
      exact ⟨_, _, .peekUInt8 hahead⟩
    | uint8 =>
      obtain ⟨octets, hlength, hahead⟩ := hthere 1 rfl
      rw [Octets.eq_singleton_of_length hlength] at hahead
      exact ⟨_, _, .uint8 hahead⟩
    | uint16 =>
      obtain ⟨octets, hlength, hahead⟩ := hthere 2 rfl
      rw [Octets.eq_ofUInt16_of_length hlength] at hahead
      exact ⟨_, _, .uint16 hahead⟩
    | uint32 =>
      obtain ⟨octets, hlength, hahead⟩ := hthere 4 rfl
      rw [Octets.eq_ofUInt32_of_length hlength] at hahead
      exact ⟨_, _, .uint32 hahead⟩
    | take count =>
      obtain ⟨octets, hlength, hahead⟩ := hthere count rfl
      exact ⟨_, _, .take hlength hahead⟩
    | takePadded count => exact ⟨_, _, .takePadded count⟩

/-! ## Operations follow the rules -/

/-- Every operation that wants octets fails in the same way without them. -/
theorem run_of_lt {count : Nat} (hwants : operation.wants? = some count)
    (h : reader.rest.length < count) :
    operation.run reader = (.error (reader.outOfBounds count), reader) := by
  have htake := Decoder.take_of_lt (length_rest reader ▸ h)
  have hpeek : Decoder.peek count reader = .error (reader.outOfBounds count) reader :=
    if_neg (Nat.not_le.2 (length_rest reader ▸ h))
  cases operation with
  | moveTo position => cases hwants
  | takePadded count => cases hwants
  | skip count =>
    cases hwants
    exact congrArg (conclude fun _ => .nothing) (Decoder.bind_of_eq_error htake)
  | peekUInt8 =>
    cases hwants
    exact congrArg (conclude .octet) (Decoder.bind_of_eq_error hpeek)
  | uint8 =>
    cases hwants
    exact congrArg (conclude .octet) (Decoder.bind_of_eq_error htake)
  | uint16 =>
    cases hwants
    exact congrArg (conclude .word16) (Decoder.bind_of_eq_error htake)
  | uint32 =>
    cases hwants
    exact congrArg (conclude .word32) (Decoder.bind_of_eq_error htake)
  | take count =>
    cases hwants
    exact congrArg (conclude .octets) htake

/-- The rules say what happens. -/
theorem Performs.run_eq (h : Performs reader operation outcome next) :
    operation.run reader = (outcome, next) := by
  cases h with
  | moveTo h => simp [Operation.run, Decoder.moveTo, h, conclude]
  | beyond h => simp [Operation.run, Decoder.moveTo, Nat.not_le.2 h, conclude]
  | skip h =>
    have htake := Decoder.take_of_le (length_rest reader ▸ h)
    exact congrArg (conclude fun _ => .nothing) (Decoder.bind_of_eq_ok htake)
  | @peekUInt8 octet h =>
    have hthere : 1 ≤ reader.remaining := length_le_remaining h
    have hahead : reader.ahead 1 = [octet] := ahead_of_prefix h
    have hpeek : Decoder.peek 1 reader = .ok [octet] reader := by
      rw [Decoder.peek, if_pos hthere, hahead]
    rw [Operation.run, Decoder.peekUInt8, Decoder.bind_of_eq_ok hpeek, Octets.toNat_singleton,
      UInt8.ofNat_toNat]
    rfl
  | @uint8 octet h =>
    have htake : Decoder.take 1 reader = .ok [octet] (reader.advance 1) :=
      Decoder.Reads.take [octet] reader h
    rw [Operation.run, Decoder.uint8, Decoder.bind_of_eq_ok htake, Octets.toNat_singleton,
      UInt8.ofNat_toNat]
    rfl
  | uint16 h => exact congrArg (conclude .word16) (Decoder.Reads.uint16 _ reader h)
  | uint32 h => exact congrArg (conclude .word32) (Decoder.Reads.uint32 _ reader h)
  | take hlength h =>
    subst hlength
    exact congrArg (conclude .octets) (Decoder.Reads.take _ reader h)
  | takePadded count =>
    have hlength : min count reader.remaining = (reader.rest.take count).length := by
      rw [List.length_take, length_rest]
    have hahead : reader.ahead (reader.rest.take count).length = reader.rest.take count :=
      ahead_of_prefix (List.take_prefix count reader.rest)
    simp only [Operation.run, Decoder.takePadded, hlength, hahead, conclude]
    rfl
  | lacking hwants h => exact run_of_lt hwants h

/-- **An operation does what the rules say.** -/
theorem run_eq_iff :
    operation.run reader = (outcome, next) ↔ Performs reader operation outcome next := by
  constructor
  · intro hrun
    obtain ⟨outcome', next', h⟩ := exists_performs reader operation
    obtain ⟨rfl, rfl⟩ := Prod.mk.inj (h.run_eq.symm.trans hrun)
    exact h
  · exact Performs.run_eq

/-! ## Sequences of operations -/

/-- What one operation keeps: the message, and that the position is one in it. -/
theorem Performs.inside (h : Performs reader operation outcome next)
    (hinside : reader.position ≤ reader.length) :
    next.buffer = reader.buffer ∧ next.position ≤ reader.length := by
  -- Passing over octets that are there leads at most to the end.
  have hadvance : ∀ count, count ≤ reader.rest.length →
      (reader.advance count).position ≤ reader.length := by
    intro count hcount
    rw [length_rest, remaining] at hcount
    show reader.position + count ≤ reader.length
    omega
  cases h with
  | moveTo h => exact ⟨rfl, h⟩
  | beyond h => exact ⟨rfl, hinside⟩
  | skip h => exact ⟨rfl, hadvance _ h⟩
  | peekUInt8 h => exact ⟨rfl, hinside⟩
  | uint8 h => exact ⟨rfl, hadvance _ h.length_le⟩
  | uint16 h => exact ⟨rfl, hadvance _ (Octets.length_ofUInt16 _ ▸ h.length_le)⟩
  | uint32 h => exact ⟨rfl, hadvance _ (Octets.length_ofUInt32 _ ▸ h.length_le)⟩
  | take hlength h => exact ⟨rfl, hadvance _ (hlength ▸ h.length_le)⟩
  | takePadded count => exact ⟨rfl, hadvance _ (List.take_prefix count reader.rest).length_le⟩
  | lacking hwants h => exact ⟨rfl, hinside⟩

/-- What a sequence of operations keeps, by induction on the sequence. -/
theorem after_inside (operations : List Operation) (hinside : reader.position ≤ reader.length) :
    (reader.after operations).buffer = reader.buffer ∧
      (reader.after operations).position ≤ reader.length := by
  induction operations generalizing reader with
  | nil => exact ⟨rfl, hinside⟩
  | cons operation operations ih =>
    have hfirst : Performs reader operation _ (operation.run reader).2 := run_eq_iff.1 rfl
    obtain ⟨hbuffer, hposition⟩ := hfirst.inside hinside
    have hlength : (operation.run reader).2.length = reader.length := congrArg Array.size hbuffer
    obtain ⟨hbuffer', hposition'⟩ := ih (hlength ▸ hposition)
    exact ⟨hbuffer'.trans hbuffer, hlength ▸ hposition'⟩

/-- **A reader stays inside its message.**  Whatever operations came before, with whatever
arguments, and whether they succeeded or failed, the message is as it was and the position is at
most its length.  The next operation does what the rules say, and nothing else. -/
theorem operations_stay_inside (message : Octets) (before : List Operation)
    (operation : Operation) :
    let reader := (ofOctets message).after before
    reader.buffer.toList = message ∧ reader.position ≤ message.length ∧
      ∀ outcome next,
        operation.run reader = (outcome, next) ↔ Performs reader operation outcome next := by
  intro reader
  have hstart : (ofOctets message).position ≤ (ofOctets message).length := Nat.zero_le _
  obtain ⟨hbuffer, hposition⟩ := after_inside before hstart
  exact ⟨congrArg Array.toList hbuffer, hposition, fun _ _ => run_eq_iff⟩

example :
    ((ofOctets [1, 2, 3]).after [.uint16, .uint32, .moveTo 4, .takePadded 4]).position = 3 := by
  decide

end Reader

end IterativeDns
