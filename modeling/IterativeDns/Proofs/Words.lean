import IterativeDns.Text.Blank
import Mathlib.Data.List.TakeWhile

/-!
# Words of a text

The words of a text are its pieces between blanks.  There may be any blanks around them, so a text
has one list of words, but many texts have the same words.

* `Text.wordsBetween_append` — a word and what comes after it, from the next blank on.
* `Text.Spaced` — a text consists of words, with blanks around them and some between any two.
* `Text.wordsBetween_eq_iff` — **the words of a text are those that it is made of,** and
  `Text.words_eq_iff` says so of a line.
-/

namespace IterativeDns.Text

variable {isBlank : Char → Bool} {blank : Char} {cs gap word rest : List Char}

/-! ## Blanks and words, one after the other -/

theorem splitWhere_append_cons (hblank : isBlank blank = true) (cs rest : List Char) :
    splitWhere isBlank (cs ++ blank :: rest) =
      splitWhere isBlank cs ++ splitWhere isBlank rest := by
  induction cs with
  | nil => simp only [List.nil_append, splitWhere, hblank, if_true, List.singleton_append]
  | cons c cs ih =>
    simp only [List.cons_append, splitWhere, ih]
    split
    · rfl
    · cases hsplit : splitWhere isBlank cs with
      | nil => exact absurd hsplit (splitWhere_ne_nil isBlank cs)
      | cons piece pieces => rfl

theorem wordsBetween_append_cons (hblank : isBlank blank = true) (cs rest : List Char) :
    wordsBetween isBlank (cs ++ blank :: rest) =
      wordsBetween isBlank cs ++ wordsBetween isBlank rest := by
  rw [wordsBetween, splitWhere_append_cons hblank, List.filter_append]
  rfl

theorem splitWhere_of_forall (hcs : ∀ c ∈ cs, isBlank c = false) :
    splitWhere isBlank cs = [cs] := by
  induction cs with
  | nil => rfl
  | cons c cs ih =>
    obtain ⟨hc, hcs⟩ := List.forall_mem_cons.1 hcs
    simp only [splitWhere, hc, ih hcs, Bool.false_eq_true, if_false]

/-- A text without blanks is its only word. -/
theorem wordsBetween_of_forall (hne : cs ≠ []) (hcs : ∀ c ∈ cs, isBlank c = false) :
    wordsBetween isBlank cs = [cs] := by
  rw [wordsBetween, splitWhere_of_forall hcs]
  exact List.filter_eq_self.2 fun word hword => by
    rw [List.mem_singleton.1 hword]
    simpa using hne

/-- A text that does not start with a blank has a word. -/
theorem wordsBetween_ne_nil {c : Char} (hhead : cs.head? = some c) (hc : isBlank c = false) :
    wordsBetween isBlank cs ≠ [] := by
  obtain ⟨rest, rfl⟩ := List.head?_eq_some_iff.1 hhead
  simp only [wordsBetween, splitWhere, hc, Bool.false_eq_true, if_false]
  split <;> exact List.cons_ne_nil _ _

/-- Blanks before a text are of no importance. -/
theorem wordsBetween_blank_append (hgap : ∀ c ∈ gap, isBlank c = true) (cs : List Char) :
    wordsBetween isBlank (gap ++ cs) = wordsBetween isBlank cs := by
  induction gap with
  | nil => rfl
  | cons blank gap ih =>
    obtain ⟨hblank, hgap⟩ := List.forall_mem_cons.1 hgap
    rw [List.cons_append, ← ih hgap]
    exact wordsBetween_append_cons hblank [] (gap ++ cs)

/-- More blanks between two texts are of no importance. -/
theorem wordsBetween_append_replicate (hblank : isBlank blank = true) (width : Nat)
    (cs rest : List Char) :
    wordsBetween isBlank (cs ++ List.replicate width blank ++ blank :: rest) =
      wordsBetween isBlank cs ++ wordsBetween isBlank rest := by
  have hgap : ∀ c ∈ List.replicate width blank, isBlank c = true := by
    intro c hc
    rwa [List.eq_of_mem_replicate hc]
  have hfirst : cs ++ List.replicate width blank ++ blank :: rest =
      cs ++ blank :: (List.replicate width blank ++ rest) := by
    rw [List.append_assoc, ← List.cons_append, ← List.replicate_succ, List.replicate_succ',
      List.append_assoc, List.singleton_append]
  rw [hfirst, wordsBetween_append_cons hblank, wordsBetween_blank_append hgap]

theorem wordsBetween_of_blank (hgap : ∀ c ∈ gap, isBlank c = true) :
    wordsBetween isBlank gap = [] := by
  rw [← List.append_nil gap, wordsBetween_blank_append hgap]
  rfl

/-- A word ends where the text ends or a blank comes. -/
theorem wordsBetween_append (hne : word ≠ []) (hword : ∀ c ∈ word, isBlank c = false)
    (hrest : ∀ c, rest.head? = some c → isBlank c = true) :
    wordsBetween isBlank (word ++ rest) = word :: wordsBetween isBlank rest := by
  cases rest with
  | nil =>
    rw [List.append_nil, wordsBetween_of_forall hne hword]
    rfl
  | cons blank rest =>
    have hblank := hrest blank rfl
    have hskip : wordsBetween isBlank (blank :: rest) = wordsBetween isBlank rest :=
      wordsBetween_append_cons hblank [] rest
    rw [wordsBetween_append_cons hblank, wordsBetween_of_forall hne hword, hskip]
    rfl

/-! ## Texts made of words -/

/-- The text consists of the words in their order.  There may be blanks around them, and there are
some between any two. -/
inductive Spaced (isBlank : Char → Bool) : List (List Char) → List Char → Prop where
  /-- Blanks alone are no words. -/
  | blank {gap : List Char} (hgap : ∀ c ∈ gap, isBlank c = true) : Spaced isBlank [] gap
  /-- A word may follow blanks, and it ends where the text ends or a blank comes. -/
  | word {gap word rest : List Char} {words : List (List Char)}
      (hgap : ∀ c ∈ gap, isBlank c = true) (hne : word ≠ [])
      (hword : ∀ c ∈ word, isBlank c = false) (hend : ∀ c, rest.head? = some c → isBlank c = true)
      (hrest : Spaced isBlank words rest) : Spaced isBlank (word :: words) (gap ++ word ++ rest)

variable {words : List (List Char)}

/-- Each character is a blank or in a word. -/
theorem Spaced.mem (h : Spaced isBlank words cs) {c : Char} (hc : c ∈ cs) :
    isBlank c = true ∨ ∃ word ∈ words, c ∈ word := by
  induction h with
  | blank hgap => exact .inl (hgap c hc)
  | @word gap word rest words hgap _ _ _ _ ih =>
    rcases List.mem_append.1 hc with hc | hc
    · rcases List.mem_append.1 hc with hc | hc
      · exact .inl (hgap c hc)
      · exact .inr ⟨word, List.mem_cons_self, hc⟩
    · rcases ih hc with hblank | ⟨other, hother, hc⟩
      · exact .inl hblank
      · exact .inr ⟨other, List.mem_cons_of_mem _ hother, hc⟩

/-- A text holds the characters of its words. -/
theorem Spaced.mem_of_mem_word (h : Spaced isBlank words cs) (hmem : word ∈ words) {c : Char}
    (hc : c ∈ word) : c ∈ cs := by
  induction h with
  | blank hgap => cases hmem
  | word _ _ _ _ _ ih =>
    rcases List.mem_cons.1 hmem with rfl | hmem
    · exact List.mem_append_left _ (List.mem_append_right _ hc)
    · exact List.mem_append_right _ (ih hmem)

theorem Spaced.wordsBetween_eq (h : Spaced isBlank words cs) : wordsBetween isBlank cs = words := by
  induction h with
  | blank hgap => exact wordsBetween_of_blank hgap
  | word hgap hne hword hend _ ih =>
    rw [List.append_assoc, wordsBetween_blank_append hgap, wordsBetween_append hne hword hend, ih]

/-- A text up to the first character without a property, and the text from there on. -/
theorem exists_append_of_holds (holds : Char → Bool) (cs : List Char) :
    ∃ front rest, cs = front ++ rest ∧ (∀ c ∈ front, holds c = true) ∧
      ∀ c, rest.head? = some c → holds c = false := by
  refine ⟨cs.takeWhile holds, cs.dropWhile holds, List.takeWhile_append_dropWhile.symm,
    fun c => List.mem_takeWhile_imp, fun c hc => ?_⟩
  have hnot := List.head?_dropWhile_not holds cs
  rw [hc] at hnot
  exact hnot

/-- Every text is made of its words, by induction on its length: what comes after the blanks at the
front and the word behind them is shorter. -/
theorem spaced_wordsBetween (isBlank : Char → Bool) (cs : List Char) :
    Spaced isBlank (wordsBetween isBlank cs) cs := by
  induction hlength : cs.length using Nat.strongRecOn generalizing cs with
  | ind length ih =>
    obtain ⟨gap, front, rfl, hgap, hfront⟩ := exists_append_of_holds isBlank cs
    obtain ⟨word, rest, rfl, hword, hend⟩ := exists_append_of_holds (!isBlank ·) front
    simp only [Bool.not_eq_true', Bool.not_eq_false'] at hword hend
    rw [wordsBetween_blank_append hgap]
    by_cases hne : word = []
    · -- What comes after the blanks neither is a blank nor starts a word, so there is nothing.
      subst hne
      cases rest with
      | nil =>
        rw [List.append_nil, List.append_nil]
        exact .blank hgap
      | cons c rest => exact absurd ((hend c rfl).symm.trans (hfront c rfl)) (by decide)
    · have hpos : 0 < word.length := List.length_pos_iff.2 hne
      have hshorter : rest.length < length := by
        simp only [List.length_append] at hlength
        omega
      rw [wordsBetween_append hne hword hend, ← List.append_assoc]
      exact .word hgap hne hword hend (ih _ hshorter rest rfl)

/-- **The words of a text are those that it is made of.** -/
theorem wordsBetween_eq_iff : wordsBetween isBlank cs = words ↔ Spaced isBlank words cs := by
  constructor
  · rintro rfl
    exact spaced_wordsBetween isBlank cs
  · exact Spaced.wordsBetween_eq

/-- The words of a line are those that it is made of. -/
theorem words_eq_iff {line : String} {words : List String} :
    Text.words line = words ↔ Spaced Text.isBlank (words.map String.toList) line.toList := by
  rw [← wordsBetween_eq_iff, Text.words]
  constructor
  · rintro rfl
    simp
  · intro h
    simp [h]

end IterativeDns.Text
