import IterativeDns.Toml.Numbers

/-!
# Settings files

This file reads whole settings files.  A file is read line by line as statements, that is, headings
and pairs of key and value, which are then carried out one after the other on a tree of tables.
Arrays and inline tables may be nested in values, but only to a fixed depth, and the recursion is on
the depth that is left.
-/

namespace IterativeDns.Toml

/-! ## Between the parts -/

/-- The most levels of arrays and inline tables around a value. -/
def maxNesting : Nat := 79

/-- The most parts of a dotted key. -/
def maxKeyParts : Nat := 79

/-- A text without the blanks at its front. -/
def dropBlanks (cs : List Char) : List Char := cs.dropWhile fun c => c == ' ' || c == '\t'

/-- A text without the blanks, ends of lines and comments at its front, as they may stand between
the elements of an array. -/
def dropFiller : (inComment : Bool) → List Char → List Char
  | _, '\n' :: rest => dropFiller false rest
  | _, '\r' :: '\n' :: rest => dropFiller false rest
  | false, ' ' :: rest => dropFiller false rest
  | false, '\t' :: rest => dropFiller false rest
  | false, '#' :: rest => dropFiller true rest
  | true, c :: rest => if isTextChar c then dropFiller true rest else c :: rest
  | _, cs => cs

/-- Reads what `item` reads, with what `gap` drops before it and after it. -/
def surrounded {α : Type} (gap : List Char → List Char) (item : Scan α) : Scan α := fun cs =>
  (item (gap cs)).map fun (value, rest) => (value, gap rest)

/-- Reads as many items as there are, with a separator between any two neighbours; a separator
without an item after it is left unread. -/
def separated {α : Type} (separator : Char) (item : Scan α) (cs : List Char) :
    List α × List Char :=
  match item cs with
  | none => ([], cs)
  | some (value, rest) =>
    match rest with
    | [] => ([value], [])
    | c :: next =>
      if c == separator && next.length < cs.length then
        match separated separator item next with
        | ([], _) => ([value], rest)
        | (values, rest) => (value :: values, rest)
      else ([value], rest)
termination_by cs.length
decreasing_by simp_all

/-! ## Keys -/

/-- The character may stand in a key without quotes. -/
def isBareKeyChar (c : Char) : Bool := c.isAlphanum || c == '_' || c == '-'

/-- Reads one part of a key. -/
def keyPart : Scan String := fun cs =>
  match stringOnLine cs with
  | some found => some found
  | none =>
    match cs.takeWhile isBareKeyChar with
    | [] => none
    | part => some (String.ofList part, cs.dropWhile isBareKeyChar)

/-- Reads a key: its parts before the last, and the last. -/
def key : Scan (List String × String) := fun cs =>
  let (parts, rest) := separated '.' (surrounded dropBlanks keyPart) cs
  match parts.getLast? with
  | none => none
  | some last => if maxKeyParts < parts.length then none else some ((parts.dropLast, last), rest)

/-! ## Values -/

/-- Reads a truth value. -/
def boolean : Scan Node
  | 't' :: 'r' :: 'u' :: 'e' :: rest => some (.boolean true, rest)
  | 'f' :: 'a' :: 'l' :: 's' :: 'e' :: rest => some (.boolean false, rest)
  | _ => none

/-- Reads a value that is neither an array nor an inline table. -/
def scalar : Scan Node := fun cs =>
  ((string cs).map fun (text, rest) => (.string text, rest)) <|> boolean cs <|> number cs

/-- Reads the elements of an array and its closing bracket.  A comma may stand after the last
element. -/
def array (element : Scan Node) : Scan Node := fun cs => do
  let (elements, rest) := separated ',' (surrounded (dropFiller false) element) cs
  let rest := if elements.isEmpty then rest else ((char ',' rest).map (·.2)).getD rest
  let (_, rest) ← char ']' (dropFiller false rest)
  return (.array elements, rest)

/-- Reads a pair of key and value. -/
def pair (value : Scan Node) : Scan ((List String × String) × Node) := fun cs => do
  let (path, rest) ← key cs
  let (_, rest) ← char '=' rest
  let (value, rest) ← surrounded dropBlanks value rest
  return ((path, value), rest)

/-- Sets keys one after the other. -/
def setAll (pairs : List ((List String × String) × Node)) : Option Entries :=
  pairs.foldlM (fun entries ((path, key), value) => entries.set path key value .heading) []

/-- Reads the pairs of an inline table and its closing brace; they stand on one line. -/
def inlineTable (value : Scan Node) : Scan Node := fun cs => do
  let (pairs, rest) := separated ',' (pair value) cs
  let (_, rest) ← char '\x7d' (dropBlanks rest)
  return (.inline (← setAll pairs), rest)

/-- Reads a value with at most `room` levels of arrays and inline tables. -/
def value : (room : Nat) → Scan Node
  | 0 => scalar
  | room + 1 => fun cs =>
    match cs with
    | '[' :: rest => array (value room) rest
    | '\x7b' :: rest => inlineTable (value room) rest
    | _ => scalar cs

/-! ## Statements -/

/-- What one line, or several of them, say. -/
inductive Statement where
  /-- Go on with a table. -/
  | openTable (path : List String) (key : String)
  /-- Go on with one more table of a list of tables. -/
  | openListed (path : List String) (key : String)
  /-- Let a key stand for a value. -/
  | set (path : List String) (key : String) (value : Node)

/-- Reads a heading in brackets. -/
def heading : Scan Statement
  | '[' :: '[' :: rest => do
    let ((path, last), rest) ← key rest
    let (_, rest) ← char ']' rest
    let (_, rest) ← char ']' rest
    return (.openListed path last, rest)
  | '[' :: rest => do
    let ((path, last), rest) ← key rest
    let (_, rest) ← char ']' rest
    return (.openTable path last, rest)
  | _ => none

/-- Reads a statement. -/
def statement : Scan Statement := fun cs =>
  heading cs <|>
    (pair (value maxNesting) cs).map fun (((path, last), value), rest) => (.set path last value, rest)

/-- A text without the comment at its front, if there is one. -/
def dropComment : List Char → List Char
  | '#' :: rest => rest.dropWhile isTextChar
  | cs => cs

/-- The text after the end of the line, if nothing but blanks and a comment stands before it; the
last line may end with the file. -/
def restAfterLine (cs : List Char) : Option (List Char) :=
  match dropComment (dropBlanks cs) with
  | [] => some []
  | '\n' :: rest => some rest
  | '\r' :: '\n' :: rest => some rest
  | _ => none

/-- The statements of a file. -/
def statements (cs : List Char) : Option (List Statement) :=
  match dropBlanks cs with
  | [] => some []
  | front => do
    let (found, rest) := match statement front with
      | some (found, rest) => ([found], rest)
      | none => ([], front)
    let rest ← restAfterLine rest
    if rest.length < cs.length then
      let others ← statements rest
      return found ++ others
    else none
termination_by cs.length

/-! ## Trees -/

/-- Carries out a statement on the tree, of which the table at a path was opened last. -/
def Statement.carryOut : List String × Entries → Statement → Option (List String × Entries)
  | (_, entries), openTable path key => do
    return (path ++ [key], ← entries.openTable path key)
  | (_, entries), openListed path key => do
    return (path ++ [key], ← entries.openListed path key)
  | (opened, entries), set path key value => do
    return (opened, ← entries.setUnder opened path key value)

/-- A text without the byte order mark at its front, if there is one. -/
def dropByteOrderMark : List Char → List Char
  | '\ufeff' :: rest => rest
  | cs => cs

/-- What a file says, if it is well formed. -/
def parse? (text : String) : Option Entries := do
  let statements ← statements (dropByteOrderMark text.toList)
  let (_, entries) ← statements.foldlM Statement.carryOut ([], [])
  return entries

end IterativeDns.Toml
