/-!
# Columns

This file lays texts out in columns: it fills a text up with spaces on one side, or cuts it,
where the width of a text is the number of its characters.
-/

namespace IterativeDns.Text

/-- The text followed by as many spaces as it lacks to fill the width. -/
def padRight (width : Nat) (text : String) : String :=
  text ++ String.ofList (List.replicate (width - text.length) ' ')

/-- The text after as many spaces as it lacks to fill the width. -/
def padLeft (width : Nat) (text : String) : String :=
  String.ofList (List.replicate (width - text.length) ' ') ++ text

/-- The first `width` characters of the text. -/
def clip (width : Nat) (text : String) : String :=
  String.ofList (text.toList.take width)

/-- Filling up never makes a text shorter than the width, nor longer than it needs to be. -/
theorem length_padRight (width : Nat) (text : String) :
    (padRight width text).length = max width text.length := by
  simp [padRight, String.length_append]
  omega

/-- Filling up on the left gives the same width. -/
theorem length_padLeft (width : Nat) (text : String) :
    (padLeft width text).length = max width text.length := by
  simp [padLeft, String.length_append]
  omega

end IterativeDns.Text
