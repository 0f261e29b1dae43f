/-!
# Trees of settings

This file holds what a settings file says, as a tree of tables, and the rules by which headings and
pairs of key and value extend it.  A key is set only once.  A table that a heading named is closed to
other headings of the same name and to dotted keys; a table that only stands on the way to another
one may still be named by a heading, and one that dotted keys made may be extended by dotted keys
alone.  An inline table is complete as it stands.
-/

namespace IterativeDns.Toml

/-- How a table came about. -/
inductive Origin where
  /-- A heading names it, or it is the whole file. -/
  | heading
  /-- It stands on the way to a table that a heading names. -/
  | onTheWay
  /-- It stands on the way to a value with a dotted key. -/
  | dottedKey
deriving DecidableEq, Repr

/-- What a key can stand for. -/
inductive Node where
  /-- A text. -/
  | string (text : String)
  /-- A whole number. -/
  | integer (value : Int)
  /-- A number with a fraction or an exponent, or one that is infinite or undefined. -/
  | float
  /-- A truth value. -/
  | boolean (value : Bool)
  /-- A date, a time, or both. -/
  | dateTime
  /-- A list of values. -/
  | array (elements : List Node)
  /-- A table that is complete as it stands. -/
  | inline (entries : List (String × Node))
  /-- A table. -/
  | table (origin : Origin) (entries : List (String × Node))
  /-- A list of tables that headings name: all but the last, and the last. -/
  | tables (earlier : List (List (String × Node))) (last : List (String × Node))

/-- The keys of a table and what they stand for, in the order in which they were set. -/
abbrev Entries := List (String × Node)

namespace Entries

/-- What a key stands for. -/
def get? (key : String) (entries : Entries) : Option Node := entries.lookup key

/-- Lets a key that is there stand for something else. -/
def replace (key : String) (node : Node) (entries : Entries) : Entries :=
  entries.map fun entry => if entry.1 = key then (key, node) else entry

/-- Adds a key that is not there yet. -/
def add (key : String) (node : Node) (entries : Entries) : Entries := entries ++ [(key, node)]

/-- Changes the table at the end of a path, and makes the tables on the way if they are missing.  The
last table of a list of tables stands for the list.  With a dotted key, a table that a heading named
may not be entered. -/
def update (dotted : Bool) (change : Origin → Entries → Option Entries) :
    List String → Origin → Entries → Option Entries
  | [], origin, entries => change origin entries
  | key :: path, _, entries =>
    match entries.get? key with
    | none => do
      let made := if dotted then Origin.dottedKey else Origin.onTheWay
      let inner ← update dotted change path made []
      return entries.add key (.table made inner)
    | some (.table origin inner) =>
      if dotted && origin == .heading then none
      else do
        let inner ← update dotted change path origin inner
        return entries.replace key (.table origin inner)
    | some (.tables earlier last) => do
      let last ← update dotted change path .heading last
      return entries.replace key (.tables earlier last)
    | some _ => none

/-- Sets the key at the end of a path of keys, which must be new there.  If the path is dotted, its
table must be one that dotted keys made. -/
def set (path : List String) (key : String) (value : Node) : Origin → Entries → Option Entries :=
  update true (fun origin entries =>
    if !path.isEmpty && origin != .dottedKey then none
    else
      match entries.get? key with
      | some _ => none
      | none => some (entries.add key value)) path

/-- Opens the table that a heading names: a new one, or one that stood on the way to another. -/
def openTable (path : List String) (key : String) : Entries → Option Entries :=
  update false (fun _ entries =>
    match entries.get? key with
    | none => some (entries.add key (.table .heading []))
    | some (.table .onTheWay inner) => some (entries.replace key (.table .heading inner))
    | some _ => none) path .heading

/-- Opens one more table of the list of tables that a heading names. -/
def openListed (path : List String) (key : String) : Entries → Option Entries :=
  update false (fun _ entries =>
    match entries.get? key with
    | none => some (entries.add key (.tables [] []))
    | some (.tables earlier last) =>
      some (entries.replace key (.tables (earlier ++ [last]) []))
    | some _ => none) path .heading

/-- Sets a key in the table that the last heading named. -/
def setUnder (heading path : List String) (key : String) (value : Node) :
    Entries → Option Entries :=
  update false (set path key value) heading .heading

end Entries

end IterativeDns.Toml
