import IterativeDns.Toml.Strings
import IterativeDns.Toml.Tree

/-!
# Numbers, dates and times in settings files

This file reads numbers, dates and times.  Single underscores may stand between the digits of a
number, and only a fraction or an exponent may start with a zero before another digit.  Whole numbers
must fit sixty-four bits with a sign.  Dates and times must exist in the calendar and on the clock.
-/

namespace IterativeDns.Toml

/-! ## Digits -/

/-- Reads the digits after the first one, single underscores between them left out. -/
def moreDigits (base : Nat) : List Char → Option (List Char × List Char)
  | '_' :: c :: rest =>
    if Text.isDigitIn base c then prepend c (moreDigits base rest) else none
  | c :: rest =>
    if Text.isDigitIn base c then prepend c (moreDigits base rest)
    else if c == '_' then none
    else some ([], c :: rest)
  | [] => some ([], [])

/-- Reads digits, of which there must be one. -/
def digits (base : Nat) : Scan (List Char)
  | c :: rest => if Text.isDigitIn base c then prepend c (moreDigits base rest) else none
  | [] => none

/-- Reads an optional sign; the answer says whether it is a minus. -/
def sign : List Char → Bool × List Char
  | '-' :: rest => (true, rest)
  | '+' :: rest => (false, rest)
  | cs => (false, cs)

/-- Reads the digits of a decimal number, which does not start with a zero before another digit. -/
def decimalDigits : Scan (List Char)
  | '0' :: rest => some (['0'], rest)
  | cs => digits 10 cs

/-- Reads exactly `count` decimal digits and gives their value. -/
def fixedDigits (count : Nat) : Scan Nat := fun cs =>
  let front := cs.take count
  if front.length = count ∧ front.all (Text.isDigitIn 10) then
    some (Text.valueOfDigits 10 front, cs.drop count)
  else none

/-- Reads one given character. -/
def char (expected : Char) : Scan Unit
  | c :: rest => if c == expected then some ((), rest) else none
  | [] => none

/-! ## Whole numbers -/

/-- The number, if it fits sixty-four bits with a sign. -/
def fitting? (value : Int) : Option Node :=
  if Int64.minValue.toInt ≤ value ∧ value ≤ Int64.maxValue.toInt then some (.integer value)
  else none

/-- Reads the digits of a number in a given base. -/
def based (base : Nat) : Scan Node := fun cs => do
  let (front, rest) ← digits base cs
  return (← fitting? (Text.valueOfDigits base front), rest)

/-- Reads a whole number. -/
def integer : Scan Node
  | '0' :: 'x' :: rest => based 16 rest
  | '0' :: 'o' :: rest => based 8 rest
  | '0' :: 'b' :: rest => based 2 rest
  | cs => do
    let (negative, rest) := sign cs
    let (front, rest) ← decimalDigits rest
    let value : Int := Text.valueOfDigits 10 front
    return (← fitting? (if negative then -value else value), rest)

/-! ## Other numbers -/

/-- Reads an exponent. -/
def exponent : Scan Int
  | c :: rest =>
    if c == 'e' || c == 'E' then do
      let (negative, rest) := sign rest
      let (front, rest) ← digits 10 rest
      let value : Int := Text.valueOfDigits 10 front
      return (if negative then -value else value, rest)
    else none
  | [] => none

/-- Reads a fraction; the answer holds its digits. -/
def fraction : Scan (List Char)
  | '.' :: rest => digits 10 rest
  | _ => none

/-- The least number that is too large for a double-precision number: halfway from the largest one
to the next power of two. -/
def tooLarge : Nat := (1 <<< 1024) - (1 <<< 970)

/-- The number `mantissa` times ten to the `exponent` is too large for a double-precision number. -/
def overflows (mantissa : Nat) (exponent : Int) : Bool :=
  let size : Int := (Text.numeral 10 mantissa).length + exponent
  if mantissa = 0 ∨ size < 300 then false
  else if 320 < size then true
  else if 0 ≤ exponent then tooLarge ≤ mantissa * Nat.pow 10 exponent.toNat
  else tooLarge * Nat.pow 10 (-exponent).toNat ≤ mantissa

/-- Reads a number with a fraction, an exponent, or both. -/
def plainFloat : Scan Node := fun cs => do
  let (negative, rest) := sign cs
  let (front, rest) ← decimalDigits rest
  let (back, power, rest) ← (match fraction rest with
    | some (back, rest) =>
      match exponent rest with
      | some (power, rest) => some (back, power, rest)
      | none => some (back, 0, rest)
    | none => (exponent rest).map fun (power, rest) => ([], power, rest))
  let mantissa := Text.valueOfDigits 10 (front ++ back)
  if !negative && overflows mantissa (power - back.length) then none
  else return (.float, rest)

/-- Reads the name of an infinite or undefined number. -/
def namedFloat : Scan Node := fun cs =>
  match (sign cs).2 with
  | 'i' :: 'n' :: 'f' :: rest => some (.float, rest)
  | 'n' :: 'a' :: 'n' :: rest => some (.float, rest)
  | _ => none

/-! ## Dates and times -/

/-- The days of a month. -/
def daysOfMonth (year month : Nat) : Nat :=
  if month = 2 then
    if year % 4 = 0 ∧ (year % 100 ≠ 0 ∨ year % 400 = 0) then 29 else 28
  else if month = 4 ∨ month = 6 ∨ month = 9 ∨ month = 11 then 30
  else 31

/-- Reads a number of two digits within bounds. -/
def twoDigits (least most : Nat) : Scan Nat := fun cs => do
  let (value, rest) ← fixedDigits 2 cs
  if least ≤ value ∧ value ≤ most then return (value, rest) else none

/-- Reads a date. -/
def date : Scan Unit := fun cs => do
  let (year, rest) ← fixedDigits 4 cs
  let (_, rest) ← char '-' rest
  let (month, rest) ← twoDigits 1 12 rest
  let (_, rest) ← char '-' rest
  let (_, rest) ← twoDigits 1 (daysOfMonth year month) rest
  return ((), rest)

/-- Passes over the fraction of a second, if there is one. -/
def secondFraction : List Char → List Char
  | '.' :: c :: rest =>
    if Text.isDigitIn 10 c then rest.dropWhile (Text.isDigitIn 10) else '.' :: c :: rest
  | cs => cs

/-- Reads a time of day; a minute may have a leap second. -/
def time : Scan Unit := fun cs => do
  let (_, rest) ← twoDigits 0 23 cs
  let (_, rest) ← char ':' rest
  let (_, rest) ← twoDigits 0 59 rest
  let (_, rest) ← char ':' rest
  let (_, rest) ← twoDigits 0 60 rest
  return ((), secondFraction rest)

/-- Reads the distance from universal time. -/
def offset : Scan Unit
  | 'Z' :: rest => some ((), rest)
  | 'z' :: rest => some ((), rest)
  | c :: rest =>
    if c == '+' || c == '-' then do
      let (_, rest) ← twoDigits 0 23 rest
      let (_, rest) ← char ':' rest
      let (_, rest) ← twoDigits 0 59 rest
      return ((), rest)
    else none
  | [] => none

/-- Reads the time of day after a date, and its offset if it has one. -/
def timeAfterDate : Scan Unit
  | c :: rest =>
    if c == 'T' || c == 't' || c == ' ' then do
      let (_, rest) ← time rest
      return (offset rest).getD ((), rest)
    else none
  | [] => none

/-- Reads a date, a time, or both. -/
def dateTime : Scan Node := fun cs =>
  match date cs with
  | some (_, rest) => some (.dateTime, ((timeAfterDate rest).getD ((), rest)).2)
  | none => (time cs).map fun (_, rest) => (.dateTime, rest)

/-- Reads a date, a time, or a number. -/
def number : Scan Node := fun cs =>
  dateTime cs <|> plainFloat cs <|> namedFloat cs <|> integer cs

end IterativeDns.Toml
