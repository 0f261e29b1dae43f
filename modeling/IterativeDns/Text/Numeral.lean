/-!
# Numerals

This file writes natural numbers in a given base with a given least width, and reads the
longest numeral at the front of a text.
-/

namespace IterativeDns.Text

/-! ## Writing -/

/-- The decimal numeral of a number. -/
def decimal (n : Nat) : String := Nat.repr n

/-- The numeral of a number in a base up to sixteen, with lower-case letters and no leading
zeros. -/
def numeral (base n : Nat) : List Char := Nat.toDigits base n

/-- The numeral filled up with leading zeros to at least `width` digits. -/
def numeralOfWidth (base width n : Nat) : List Char :=
  let digits := numeral base n
  List.replicate (width - digits.length) '0' ++ digits

/-! ## Reading -/

/-- The value of a digit in a base up to thirty-six; letters of either case count from ten. -/
def digitValue? (base : Nat) (c : Char) : Option Nat :=
  let value :=
    if '0' ≤ c ∧ c ≤ '9' then some (c.toNat - '0'.toNat)
    else if 'a' ≤ c ∧ c ≤ 'z' then some (c.toNat - 'a'.toNat + 10)
    else if 'A' ≤ c ∧ c ≤ 'Z' then some (c.toNat - 'A'.toNat + 10)
    else none
  value.filter (· < base)

/-- The character is a digit in the base. -/
def isDigitIn (base : Nat) (c : Char) : Bool := (digitValue? base c).isSome

/-- The number that a list of digits denotes, the most significant digit first. -/
def valueOfDigits (base : Nat) (digits : List Char) : Nat :=
  digits.foldl (fun value c => value * base + (digitValue? base c).getD 0) 0

/-- Reads all the digits at the front of a text, of which there must be at least one and at
most `maxDigits`; the answer is their value with the rest of the text.  Unless
`leadingZeros` allows it, a numeral of several digits may not start with a zero. -/
def readNumeral (base maxDigits : Nat) (leadingZeros : Bool) (cs : List Char) :
    Option (Nat × List Char) :=
  let digits := cs.takeWhile (isDigitIn base)
  if digits.isEmpty || maxDigits < digits.length then none
  else if !leadingZeros && digits.head? == some '0' && 1 < digits.length then none
  else some (valueOfDigits base digits, cs.dropWhile (isDigitIn base))

example : readNumeral 10 3 false "198.41".toList = some (198, ".41".toList) := by cbv

example : readNumeral 10 3 false "01".toList = none ∧ readNumeral 16 4 true "0db8".toList
    = some (0xdb8, []) := by constructor <;> cbv

end IterativeDns.Text
