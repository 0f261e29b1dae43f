/-!
# Octets

This file writes numbers as sequences of octets, the most significant first, and reads them
back.  The main facts are that a written number has exactly the octets asked for, and that
reading them gives the number reduced to that width.
-/

namespace IterativeDns

/-- A sequence of octets, as it travels in a datagram. -/
abbrev Octets := List UInt8

namespace Octets

/-- The last `width` octets of a number, the most significant first. -/
def bigEndian : (width value : Nat) → Octets
  | 0, _ => []
  | width + 1, value => bigEndian width (value / 256) ++ [UInt8.ofNat value]

/-- The number that octets denote, the most significant first. -/
def toNat (octets : Octets) : Nat :=
  octets.foldl (fun value octet => value * 256 + octet.toNat) 0

/-- The two octets of a 16-bit word. -/
def ofUInt16 (word : UInt16) : Octets := bigEndian 2 word.toNat

/-- The four octets of a 32-bit word. -/
def ofUInt32 (word : UInt32) : Octets := bigEndian 4 word.toNat

/-- A written number has exactly as many octets as asked for. -/
@[simp] theorem length_bigEndian (width value : Nat) : (bigEndian width value).length = width := by
  induction width generalizing value with
  | zero => rfl
  | succ width ih => simp [bigEndian, ih]

/-- One more octet at the end multiplies by 256 and adds. -/
theorem toNat_append_singleton (octets : Octets) (octet : UInt8) :
    toNat (octets ++ [octet]) = toNat octets * 256 + octet.toNat := by
  simp [toNat, List.foldl_append]

/-- Written octets denote the number, reduced to the width they hold. -/
theorem toNat_bigEndian (width value : Nat) :
    toNat (bigEndian width value) = value % Nat.pow 256 width := by
  induction width generalizing value with
  | zero => simp [bigEndian, toNat, Nat.mod_one]
  | succ width ih =>
    have last : (UInt8.ofNat value).toNat = value % 256 := UInt8.toNat_ofNat'
    have step : Nat.pow 256 (width + 1) = 256 * Nat.pow 256 width := Nat.mul_comm _ _
    have split : value % (256 * Nat.pow 256 width) =
        value % 256 + 256 * (value / 256 % Nat.pow 256 width) := Nat.mod_mul
    rw [bigEndian, toNat_append_singleton, ih, last, step, split]
    omega

@[simp] theorem length_ofUInt16 (word : UInt16) : (ofUInt16 word).length = 2 :=
  length_bigEndian 2 _

@[simp] theorem length_ofUInt32 (word : UInt32) : (ofUInt32 word).length = 4 :=
  length_bigEndian 4 _

/-- The octets of a 16-bit word denote it. -/
theorem toNat_ofUInt16 (word : UInt16) : toNat (ofUInt16 word) = word.toNat := by
  have hlt : word.toNat < Nat.pow 256 2 := word.toNat_lt
  rw [ofUInt16, toNat_bigEndian, Nat.mod_eq_of_lt hlt]

/-- The octets of a 32-bit word denote it. -/
theorem toNat_ofUInt32 (word : UInt32) : toNat (ofUInt32 word) = word.toNat := by
  have hlt : word.toNat < Nat.pow 256 4 := word.toNat_lt
  rw [ofUInt32, toNat_bigEndian, Nat.mod_eq_of_lt hlt]

end Octets

end IterativeDns
