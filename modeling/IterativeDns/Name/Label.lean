import IterativeDns.Text.Numeral
import IterativeDns.Wire.Octets

/-!
# Labels

This file relates the octets of one label of a domain name to its text.  In text a dot, a
backslash and every octet that is not printable ASCII stand as a backslash with three decimal
digits; a backslash before any other octet stands for that octet.  The main fact is that
reading a written label gives its octets back, whatever they are.
-/

namespace IterativeDns.Label

/-- The octet of the backslash. -/
def backslash : UInt8 := 0x5c

/-- The octet of the dot. -/
def dot : UInt8 := 0x2e

/-! ## From octets to text -/

/-- The octet stands in text as itself. -/
def isPlain (octet : UInt8) : Bool :=
  0x21 ≤ octet && octet ≤ 0x7e && octet != dot && octet != backslash

/-- The text of one octet. -/
def escapeOctet (octet : UInt8) : List Char :=
  if isPlain octet then [Char.ofNat octet.toNat]
  else '\\' :: Text.numeralOfWidth 10 3 octet.toNat

/-- The text of a label. -/
def escape (octets : Octets) : List Char := octets.flatMap escapeOctet

/-! ## From text to octets -/

/-- The octets of a text in UTF-8. -/
def utf8 (cs : List Char) : Octets := cs.flatMap String.utf8EncodeChar

/-- The value of an octet as a decimal digit. -/
def digit? (octet : UInt8) : Option Nat :=
  if 0x30 ≤ octet ∧ octet ≤ 0x39 then some (octet.toNat - 0x30) else none

/-- The octet that three decimal digits denote, if it is below 256. -/
def decimalOctet? (first second third : UInt8) : Option UInt8 := do
  let value := (← digit? first) * 100 + (← digit? second) * 10 + (← digit? third)
  if value < 256 then some (UInt8.ofNat value) else none

/-- The octets that remain when the escapes are resolved.  A backslash at the very end stands
for itself. -/
def unescape : Octets → Octets
  | [] => []
  | octet :: rest =>
    if octet = backslash then
      match rest with
      | [] => [octet]
      | first :: second :: third :: rest =>
        match decimalOctet? first second third with
        | some value => value :: unescape rest
        | none => first :: unescape (second :: third :: rest)
      | first :: rest => first :: unescape rest
    else octet :: unescape rest

/-- The octets of a label that is given as text. -/
def octetsOfText (cs : List Char) : Octets := unescape (utf8 cs)

example : octetsOfText "x\\046y".toList = [0x78, 0x2e, 0x79] := by cbv

example : octetsOfText "\\999\\".toList = [0x39, 0x39, 0x39, 0x5c] := by cbv

/-- An octet other than the backslash stands for itself. -/
theorem unescape_cons_of_ne {octet : UInt8} (h : octet ≠ backslash) (rest : Octets) :
    unescape (octet :: rest) = octet :: unescape rest := by
  rw [unescape.eq_def]
  simp [h]

/-- Three digits after a backslash stand for the octet that they denote. -/
theorem unescape_decimal {first second third value : UInt8} (rest : Octets)
    (h : decimalOctet? first second third = some value) :
    unescape (backslash :: first :: second :: third :: rest) = value :: unescape rest := by
  rw [unescape.eq_def]
  simp [h]

/-! ## Reading what was written -/

/-- The decimal digit at a place of an octet, as the octet of that digit. -/
def digitOctet (octet : UInt8) (place : UInt8) : UInt8 := 0x30 + octet / place % 10

/-- A plain octet is written as itself. -/
theorem utf8_escapeOctet_of_plain : ∀ octet : UInt8, isPlain octet = true →
    utf8 (escapeOctet octet) = [octet] ∧ octet ≠ backslash := by
  have key : ∀ n : Fin 256, isPlain (UInt8.ofNat n) = true →
      utf8 (escapeOctet (UInt8.ofNat n)) = [UInt8.ofNat n] ∧ UInt8.ofNat n ≠ backslash := by
    decide +kernel
  intro octet
  simpa using key ⟨octet.toNat, octet.toNat_lt⟩

/-- Any other octet is written as a backslash and three digits that denote it. -/
theorem utf8_escapeOctet_of_not_plain : ∀ octet : UInt8, isPlain octet = false →
    utf8 (escapeOctet octet) =
      [backslash, digitOctet octet 100, digitOctet octet 10, digitOctet octet 1] ∧
    decimalOctet? (digitOctet octet 100) (digitOctet octet 10) (digitOctet octet 1) =
      some octet := by
  have key : ∀ n : Fin 256, isPlain (UInt8.ofNat n) = false →
      utf8 (escapeOctet (UInt8.ofNat n)) =
        [backslash, digitOctet (UInt8.ofNat n) 100, digitOctet (UInt8.ofNat n) 10,
          digitOctet (UInt8.ofNat n) 1] ∧
      decimalOctet? (digitOctet (UInt8.ofNat n) 100) (digitOctet (UInt8.ofNat n) 10)
        (digitOctet (UInt8.ofNat n) 1) = some (UInt8.ofNat n) := by
    decide +kernel
  intro octet
  simpa using key ⟨octet.toNat, octet.toNat_lt⟩

/-- Reading the text of one octet gives the octet, whatever follows. -/
theorem unescape_escapeOctet (octet : UInt8) (rest : Octets) :
    unescape (utf8 (escapeOctet octet) ++ rest) = octet :: unescape rest := by
  cases hplain : isPlain octet with
  | true =>
    obtain ⟨htext, hne⟩ := utf8_escapeOctet_of_plain octet hplain
    rw [htext]
    exact unescape_cons_of_ne hne rest
  | false =>
    obtain ⟨htext, hvalue⟩ := utf8_escapeOctet_of_not_plain octet hplain
    rw [htext]
    exact unescape_decimal rest hvalue

/-- Reading the text of a label gives its octets back. -/
theorem octetsOfText_escape (octets : Octets) : octetsOfText (escape octets) = octets := by
  induction octets with
  | nil => rfl
  | cons octet rest ih =>
    unfold octetsOfText escape at ih ⊢
    rw [List.flatMap_cons, utf8, List.flatMap_append]
    exact (unescape_escapeOctet octet _).trans (congrArg _ ih)

end IterativeDns.Label
