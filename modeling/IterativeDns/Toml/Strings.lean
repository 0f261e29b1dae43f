import IterativeDns.Text.Numeral

/-!
# Strings in settings files

This file reads the four kinds of strings of a settings file, each from the character after its
opening quotes.  Basic strings have escapes, literal strings have none, and either may span several
lines between triple quotes.  Each reader gives the text and what comes after the closing quotes.
-/

namespace IterativeDns.Toml

/-- A reader of something at the front of a text; it gives what it read and the rest. -/
abbrev Scan (α : Type) := List Char → Option (α × List Char)

/-- The character may stand in a comment or a string: a tab, or anything but a control character. -/
def isTextChar (c : Char) : Bool := c == '\t' || (0x20 ≤ c.toNat && c.toNat != 0x7f)

/-- The character with a given code point, if there is one. -/
def charOfCode? (code : Nat) : Option Char :=
  if h : code.isValidChar then some (Char.ofNatAux code h) else none

/-- The character with the code point that hexadecimal digits denote. -/
def charOfDigits? (digits : List Char) : Option Char :=
  if digits.all (Text.isDigitIn 16) then charOfCode? (Text.valueOfDigits 16 digits) else none

/-- The character that a letter after a backslash stands for. -/
def escapedChar? : Char → Option Char
  | 'b' => some '\x08'
  | 't' => some '\t'
  | 'n' => some '\n'
  | 'f' => some '\x0c'
  | 'r' => some '\r'
  | '"' => some '"'
  | '\\' => some '\\'
  | _ => none

/-- Puts a character before the text that a reader gave. -/
def prepend (c : Char) : Option (List Char × List Char) → Option (List Char × List Char)
  | some (text, rest) => some (c :: text, rest)
  | none => none

/-- The rest of a basic string. -/
def basicString : Scan (List Char)
  | '"' :: rest => some ([], rest)
  | '\\' :: 'u' :: a :: b :: c :: d :: rest => do
    prepend (← charOfDigits? [a, b, c, d]) (basicString rest)
  | '\\' :: 'U' :: a :: b :: c :: d :: e :: f :: g :: h :: rest => do
    prepend (← charOfDigits? [a, b, c, d, e, f, g, h]) (basicString rest)
  | '\\' :: letter :: rest => do prepend (← escapedChar? letter) (basicString rest)
  | c :: rest => if isTextChar c && c != '\\' then prepend c (basicString rest) else none
  | [] => none

/-- The rest of a literal string. -/
def literalString : Scan (List Char)
  | '\x27' :: rest => some ([], rest)
  | c :: rest => if isTextChar c then prepend c (literalString rest) else none
  | [] => none

/-- Nothing but blanks stands before the end of the line. -/
def endsInBlanks (cs : List Char) : Bool :=
  match cs.dropWhile fun c => c == ' ' || c == '\t' with
  | '\n' :: _ => true
  | '\r' :: '\n' :: _ => true
  | _ => false

/-- The rest of a basic string over several lines.  While `joining`, blanks and ends of lines are
passed over, as they are after a backslash at the end of a line.  Up to two quotes may stand before
the closing ones. -/
def basicLines : (joining : Bool) → Scan (List Char)
  | true, ' ' :: rest => basicLines true rest
  | true, '\t' :: rest => basicLines true rest
  | true, '\n' :: rest => basicLines true rest
  | true, '\r' :: '\n' :: rest => basicLines true rest
  | _, '"' :: '"' :: '"' :: '"' :: '"' :: rest => some (['"', '"'], rest)
  | _, '"' :: '"' :: '"' :: '"' :: rest => some (['"'], rest)
  | _, '"' :: '"' :: '"' :: rest => some ([], rest)
  | _, '\\' :: 'u' :: a :: b :: c :: d :: rest => do
    prepend (← charOfDigits? [a, b, c, d]) (basicLines false rest)
  | _, '\\' :: 'U' :: a :: b :: c :: d :: e :: f :: g :: h :: rest => do
    prepend (← charOfDigits? [a, b, c, d, e, f, g, h]) (basicLines false rest)
  | _, '\\' :: letter :: rest =>
    match escapedChar? letter with
    | some c => prepend c (basicLines false rest)
    | none => if endsInBlanks (letter :: rest) then basicLines true (letter :: rest) else none
  | _, '\r' :: '\n' :: rest => prepend '\n' (basicLines false rest)
  | _, '\n' :: rest => prepend '\n' (basicLines false rest)
  | _, c :: rest => if isTextChar c && c != '\\' then prepend c (basicLines false rest) else none
  | _, [] => none

/-- The rest of a literal string over several lines. -/
def literalLines : Scan (List Char)
  | '\x27' :: '\x27' :: '\x27' :: '\x27' :: '\x27' :: rest => some (['\x27', '\x27'], rest)
  | '\x27' :: '\x27' :: '\x27' :: '\x27' :: rest => some (['\x27'], rest)
  | '\x27' :: '\x27' :: '\x27' :: rest => some ([], rest)
  | '\r' :: '\n' :: rest => prepend '\n' (literalLines rest)
  | '\n' :: rest => prepend '\n' (literalLines rest)
  | c :: rest => if isTextChar c then prepend c (literalLines rest) else none
  | [] => none

/-- The end of the line right after the opening quotes is no part of the string. -/
def dropFirstLineEnd : List Char → List Char
  | '\n' :: rest => rest
  | '\r' :: '\n' :: rest => rest
  | cs => cs

/-- Reads a string of any kind. -/
def string : Scan String := fun cs =>
  (match cs with
    | '"' :: '"' :: '"' :: rest => basicLines false (dropFirstLineEnd rest)
    | '"' :: rest => basicString rest
    | '\x27' :: '\x27' :: '\x27' :: rest => literalLines (dropFirstLineEnd rest)
    | '\x27' :: rest => literalString rest
    | _ => none).map fun (text, rest) => (String.ofList text, rest)

/-- Reads a string on one line, as a key may be. -/
def stringOnLine : Scan String := fun cs =>
  (match cs with
    | '"' :: rest => basicString rest
    | '\x27' :: rest => literalString rest
    | _ => none).map fun (text, rest) => (String.ofList text, rest)

example : string "\"a\\u00e9\" x".toList = some ("aé", " x".toList) := by decide +kernel

example : string "'''\n''a'''''.".toList = some ("''a''", ".".toList) := by decide +kernel

end IterativeDns.Toml
