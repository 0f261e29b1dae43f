import IterativeDns.Text.Lines
import IterativeDns.Wire.Octets

/-!
# File trees

This file holds trees of directories and files, and says what reading the file at a path gives: its
octets, or the fault that comes first on the way to it.  A path that starts with a slash starts at
the top of the tree, and any other one at a working directory.
-/

namespace IterativeDns

/-- Why a file cannot be read as text. -/
inductive FileFault where
  /-- A name on the path is not there. -/
  | notFound
  /-- The path goes on after a file. -/
  | notADirectory
  /-- There is a directory at the path. -/
  | isADirectory
  /-- The path, or a name on it, is too long. -/
  | nameTooLong
  /-- The path holds a NUL character. -/
  | nulInPath
  /-- The octets of the file are not UTF-8. -/
  | notText
  /-- Anything else, in words. -/
  | other (reason : String)
deriving DecidableEq, Repr

/-- The fault in words. -/
def FileFault.message : FileFault → String
  | notFound => "No such file or directory (os error 2)"
  | notADirectory => "Not a directory (os error 20)"
  | isADirectory => "Is a directory (os error 21)"
  | nameTooLong => "File name too long (os error 36)"
  | nulInPath => "file name contained an unexpected NUL byte"
  | notText => "stream did not contain valid UTF-8"
  | other reason => reason

/-- A file or a directory. -/
inductive FileTree where
  /-- A file with its octets. -/
  | file (octets : Octets)
  /-- A directory with the names in it. -/
  | directory (entries : List (String × FileTree))

namespace FileTree

/-- The most octets in a name on a path. -/
def maxFileNameLength : Nat := 255

/-- The most octets in a path. -/
def maxPathLength : Nat := 4095

/-- Goes along the names of a path from a file or directory; `above` holds the directories around it,
the innermost first.  A single dot stands for a directory itself and two dots for the one around it,
which at the top is the directory itself. -/
def walk : (above : List FileTree) → FileTree → (path : List String) → Except FileFault FileTree
  | _, here, [] => .ok here
  | _, file _, _ :: _ => .error .notADirectory
  | above, here@(directory entries), name :: path =>
    if name = "" ∨ name = "." then walk above here path
    else if name = ".." then
      match above with
      | [] => walk [] here path
      | parent :: above => walk above parent path
    else if maxFileNameLength < name.utf8ByteSize then .error .nameTooLong
    else
      match entries.lookup name with
      | none => .error .notFound
      | some inner => walk (here :: above) inner path

/-- The names on a path. -/
def namesOnPath (path : String) : List String :=
  (Text.splitAtChar '/' path.toList).map String.ofList

/-- The file or directory at a path. -/
def find (tree : FileTree) (workingDirectory path : String) : Except FileFault FileTree :=
  if path.toList.contains '\x00' then .error .nulInPath
  else if path = "" then .error .notFound
  else if maxPathLength < path.utf8ByteSize then .error .nameTooLong
  else if path.toList.head? = some '/' then walk [] tree (namesOnPath path)
  else walk [] tree (namesOnPath workingDirectory ++ namesOnPath path)

/-- The octets of the file at a path. -/
def read (tree : FileTree) (workingDirectory path : String) : Except FileFault Octets :=
  match tree.find workingDirectory path with
  | .ok (file octets) => .ok octets
  | .ok (directory _) => .error .isADirectory
  | .error fault => .error fault

end FileTree

end IterativeDns
