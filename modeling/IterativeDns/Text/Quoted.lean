import IterativeDns.Text.Numeral
import IterativeDns.Text.Printable

/-!
# Quoted texts

This file writes a text between double quotes for use in a message.  Quotes and backslashes
are escaped by a backslash, four control characters have a letter of their own, and every
other character that is not printable is written as its code point in braces.
-/

namespace IterativeDns.Text

/-- A character as it stands between quotes. -/
def quotedChar (c : Char) : List Char :=
  match c with
  | '"' => ['\\', '"']
  | '\\' => ['\\', '\\']
  | '\t' => ['\\', 't']
  | '\n' => ['\\', 'n']
  | '\r' => ['\\', 'r']
  | '\x00' => ['\\', '0']
  | _ =>
    if isPrintable c then [c]
    else ['\\', 'u', '\x7b'] ++ numeral 16 c.toNat ++ ['\x7d']

/-- The text between double quotes, with every character that needs it escaped. -/
def quoted (text : String) : String :=
  String.ofList ('"' :: text.toList.flatMap quotedChar ++ ['"'])

example : quotedChar '\x1b' = "\\u\x7b1b\x7d".toList := by cbv

example : quotedChar 'é' = ['é'] ∧ quotedChar '\x27' = ['\x27'] := by
  constructor <;> decide +kernel

end IterativeDns.Text
