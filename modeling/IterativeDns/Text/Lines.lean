import IterativeDns.Text.Split

/-!
# Lines

This file cuts octets into lines of text.  A line ends in a line feed, or at the end of the octets
unless nothing stands there; a carriage return before the line feed belongs to the end of the line.
A line whose octets are not UTF-8 has no text.
-/

namespace IterativeDns.Text

/-- The octet of the line feed. -/
def lineFeed : UInt8 := 0x0a

/-- The octet of the carriage return. -/
def carriageReturn : UInt8 := 0x0d

/-- The octets of a line without a carriage return at their end, if there is one. -/
def dropCarriageReturn (octets : List UInt8) : List UInt8 :=
  if octets.getLast? = some carriageReturn then octets.dropLast else octets

/-- The lines among pieces between line feeds: all but the last piece ended in a line feed. -/
def linesOfPieces : List (List UInt8) → List (List UInt8)
  | [] => []
  | [last] => if last.isEmpty then [] else [last]
  | piece :: pieces => dropCarriageReturn piece :: linesOfPieces pieces

/-- The octets of each line. -/
def rawLines (octets : List UInt8) : List (List UInt8) :=
  linesOfPieces (splitWhere (· == lineFeed) octets)

/-- The text of octets, if they are UTF-8. -/
def decodeUtf8? (octets : List UInt8) : Option String :=
  String.fromUTF8? ⟨octets.toArray⟩

/-- The lines of a text that is given by its octets. -/
def lines (octets : List UInt8) : List (Option String) := (rawLines octets).map decodeUtf8?

example : rawLines [0x61, 0x0d, 0x0a, 0x0a, 0x62] = [[0x61], [], [0x62]] := by decide

example : rawLines [0x61, 0x0a] = [[0x61]] := by decide

end IterativeDns.Text
