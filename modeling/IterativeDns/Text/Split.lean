/-!
# Splitting texts

This file cuts a text at separators, joins the pieces again, and lists the words of a line,
that is, the pieces between blanks.  Texts are lists of characters, or of octets, here.  The
main facts are that cutting and joining at one character are inverse to each other, and
that no piece holds a separator.
-/

namespace IterativeDns.Text

/-! ## Cutting at separators -/

/-- The pieces of a text between the elements that satisfy `isSeparator`; empty pieces are
kept, so the empty text has one piece. -/
def splitWhere {α : Type} (isSeparator : α → Bool) : List α → List (List α)
  | [] => [[]]
  | c :: cs =>
    if isSeparator c then [] :: splitWhere isSeparator cs
    else
      match splitWhere isSeparator cs with
      | [] => [[c]]
      | piece :: pieces => (c :: piece) :: pieces

/-- The pieces of a text between the occurrences of one character. -/
def splitAtChar (separator : Char) (cs : List Char) : List (List Char) :=
  splitWhere (· == separator) cs

/-- The pieces with one separator between any two neighbours. -/
def joinWith (separator : Char) : List (List Char) → List Char
  | [] => []
  | [piece] => piece
  | piece :: pieces => piece ++ separator :: joinWith separator pieces

/-- A split text has at least one piece. -/
theorem splitWhere_ne_nil {α : Type} (isSeparator : α → Bool) (cs : List α) :
    splitWhere isSeparator cs ≠ [] := by
  cases cs with
  | nil => simp [splitWhere]
  | cons c cs =>
    simp only [splitWhere]
    split
    · simp
    · split <;> simp

/-- Joining the pieces between the occurrences of a character gives the text back. -/
theorem joinWith_splitAtChar (separator : Char) (cs : List Char) :
    joinWith separator (splitAtChar separator cs) = cs := by
  induction cs with
  | nil => rfl
  | cons c cs ih =>
    unfold splitAtChar at ih ⊢
    simp only [splitWhere]
    have hne := splitWhere_ne_nil (· == separator) cs
    split
    · rename_i h
      obtain rfl : c = separator := by simpa using h
      cases hs : splitWhere (· == c) cs with
      | nil => exact absurd hs hne
      | cons piece pieces => rw [hs] at ih; simp [joinWith, ih]
    · cases hs : splitWhere (· == separator) cs with
      | nil => exact absurd hs hne
      | cons piece pieces =>
        rw [hs] at ih
        cases pieces <;> simp_all [joinWith]

/-- No piece of a split text holds a separator. -/
theorem not_separator_of_mem_splitWhere {α : Type} {isSeparator : α → Bool} {cs piece : List α}
    (hpiece : piece ∈ splitWhere isSeparator cs) : ∀ c ∈ piece, isSeparator c = false := by
  induction cs generalizing piece with
  | nil =>
    obtain rfl : piece = [] := by simpa [splitWhere] using hpiece
    simp
  | cons d cs ih =>
    simp only [splitWhere] at hpiece
    split at hpiece
    · rcases List.mem_cons.1 hpiece with rfl | hmem
      · simp
      · exact ih hmem
    · rename_i hd
      split at hpiece
      · obtain rfl : piece = [d] := by simpa using hpiece
        simpa using hd
      · rename_i first rest hs
        rcases List.mem_cons.1 hpiece with rfl | hmem
        · intro c hc
          rcases List.mem_cons.1 hc with rfl | hc
          · simpa using hd
          · exact ih (by rw [hs]; exact List.mem_cons_self) c hc
        · exact ih (by rw [hs]; exact List.mem_cons_of_mem _ hmem)

/-! ## Words -/

/-- The nonempty pieces of a text between the characters that satisfy `isBlank`. -/
def wordsBetween (isBlank : Char → Bool) (cs : List Char) : List (List Char) :=
  (splitWhere isBlank cs).filter (!·.isEmpty)

/-- A word is never empty. -/
theorem ne_nil_of_mem_wordsBetween {isBlank : Char → Bool} {cs word : List Char}
    (hword : word ∈ wordsBetween isBlank cs) : word ≠ [] := by
  have := (List.mem_filter.1 hword).2
  rintro rfl
  simp at this

end IterativeDns.Text
