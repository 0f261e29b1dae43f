import IterativeDns.Shell.Command
import IterativeDns.Proofs.Words
import Mathlib.Data.List.Forall2

/-!
# Lines that are commands

A command can be typed in many ways: with any blanks between its words and around them, with its
keyword in small or capital letters, and with a remark after it.  This file writes down all of them,
without saying how a line is read, and shows that just these lines are read as that command.

* `Text.AnyCase` — a word is a given one, with its letters in any case.
* `Command.Spelled` — the words that make a command, one rule for each of the commands.
* `Command.Typed` — a line consists of words, and perhaps of a remark.
* `Command.parse_eq_some_iff` — **a line is read as a command exactly if it spells it.**
-/

namespace IterativeDns

/-! ## The case of letters -/

namespace Text

/-- The same character, or the same letter in the other case. -/
def SameLetter (c d : Char) : Prop := c = d ∨ c.toLower = d ∨ c.toUpper = d

/-- The word is the text, with its letters in any case. -/
def AnyCase (word text : String) : Prop := List.Forall₂ SameLetter word.toList text.toList

/-- What is checked of the first characters one by one holds of every character among them. -/
theorem of_toNat_lt {P : Char → Prop} {bound : Nat} (h : ∀ n : Fin bound, P (Char.ofNat n))
    {c : Char} (hc : c.toNat < bound) : P c := by
  simpa only [Char.ofNat_toNat] using h ⟨c.toNat, hc⟩

theorem toLower_toUpper (c : Char) : c.toUpper.toLower = c.toLower := by
  by_cases hsmall : 'a'.val ≤ c.val ∧ c.val ≤ 'z'.val
  · have hlt : c.toNat < 0x7b := Nat.lt_succ_of_le (UInt32.le_iff_toNat_le.1 hsmall.2)
    exact of_toNat_lt (P := fun c => c.toUpper.toLower = c.toLower) (by decide +kernel) hlt
  · have hsame : c.toUpper = c := dif_neg hsmall
    rw [hsame]

theorem toUpper_toLower (c : Char) : c.toLower.toUpper = c.toUpper := by
  by_cases hcapital : c.val ≥ 'A'.val ∧ c.val ≤ 'Z'.val
  · have hlt : c.toNat < 0x5b := Nat.lt_succ_of_le (UInt32.le_iff_toNat_le.1 hcapital.2)
    exact of_toNat_lt (P := fun c => c.toLower.toUpper = c.toUpper) (by decide +kernel) hlt
  · have hsame : c.toLower = c := dif_neg hcapital
    rw [hsame]

variable {c d : Char} {word text : String}

theorem SameLetter.toLower_eq (h : SameLetter c d) (hd : d.toLower = d) : c.toLower = d := by
  rcases h with rfl | h | rfl
  · exact hd
  · exact h
  · rw [← toLower_toUpper, hd]

theorem SameLetter.toUpper_eq (h : SameLetter c d) (hd : d.toUpper = d) : c.toUpper = d := by
  rcases h with rfl | rfl | h
  · exact hd
  · rw [← toUpper_toLower, hd]
  · exact h

theorem map_eq_of_forall₂ {change : Char → Char} {cs ds : List Char}
    (hchange : ∀ c d, SameLetter c d → change d = d → change c = d)
    (h : List.Forall₂ SameLetter cs ds) (hds : ds.map change = ds) : cs.map change = ds := by
  induction h with
  | nil => rfl
  | cons hsame _ ih =>
    obtain ⟨hd, hds⟩ := List.cons.inj hds
    rw [List.map_cons, hchange _ _ hsame hd, ih hds]

theorem AnyCase.map_eq {change : Char → Char}
    (hchange : ∀ c d, SameLetter c d → change d = d → change c = d) (h : AnyCase word text)
    (htext : text.map change = text) : word.map change = text := by
  rw [← String.toList_inj, String.toList_map] at htext ⊢
  exact map_eq_of_forall₂ hchange h htext

theorem anyCase_map {change : Char → Char} (hchange : ∀ c, SameLetter c (change c))
    (word : String) : AnyCase word (word.map change) := by
  rw [AnyCase, String.toList_map, List.forall₂_map_right_iff]
  exact List.forall₂_same.2 fun c _ => hchange c

/-- A word put in small letters is the same word in another case. -/
theorem anyCase_toLower (word : String) : AnyCase word word.toLower :=
  anyCase_map (fun _ => .inr (.inl rfl)) word

theorem anyCase_toUpper (word : String) : AnyCase word word.toUpper :=
  anyCase_map (fun _ => .inr (.inr rfl)) word

/-- If a word is a text of small letters with its letters in any case, putting it in small letters
gives that text. -/
theorem AnyCase.toLower_eq (h : AnyCase word text) (htext : text.toLower = text) :
    word.toLower = text :=
  h.map_eq (fun _ _ => SameLetter.toLower_eq) htext

theorem AnyCase.toUpper_eq (h : AnyCase word text) (htext : text.toUpper = text) :
    word.toUpper = text :=
  h.map_eq (fun _ _ => SameLetter.toUpper_eq) htext

end Text

namespace Command

/-! ## Words -/

/-- The words that make a command. -/
inductive Spelled : List String → Command → Prop where
  /-- A lookup of a name, which is kept as it is written, and of a type that has a name. -/
  | lookup {keyword typed : String} {name : Name} {type : RecordType}
      (hkeyword : Text.AnyCase keyword "lookup" ∨ Text.AnyCase keyword "l")
      (hname : Name.parse name.text = .ok name) (htype : type ∈ RecordType.named)
      (htyped : Text.AnyCase typed type.text) :
    Spelled [keyword, name.text, typed] (.lookup ⟨name, type⟩)
  /-- Without a type, addresses are looked up. -/
  | lookupAddresses {keyword : String} {name : Name}
      (hkeyword : Text.AnyCase keyword "lookup" ∨ Text.AnyCase keyword "l")
      (hname : Name.parse name.text = .ok name) :
    Spelled [keyword, name.text] (.lookup ⟨name, .a⟩)
  | trace {keyword setting : String} {on : Bool} (hkeyword : Text.AnyCase keyword "trace")
      (hsetting : Text.AnyCase setting (if on then "on" else "off")) :
    Spelled [keyword, setting] (.trace on)
  /-- The server may be written in any way in which its address can be read. -/
  | server {keyword text : String} {address : IpAddress}
      (hkeyword : Text.AnyCase keyword "server")
      (haddress : IpAddress.parse? text = some address) :
    Spelled [keyword, text] (.server address)
  /-- More words are of no importance. -/
  | dump {keyword : String} (hkeyword : Text.AnyCase keyword "dump") (more : List String) :
    Spelled (keyword :: more) .dump
  | quit {keyword : String}
      (hkeyword : Text.AnyCase keyword "quit" ∨ Text.AnyCase keyword "exit")
      (more : List String) :
    Spelled (keyword :: more) .quit

variable {keyword : String} {words : List String} {command : Command}

theorem parseLookup_eq_ok {text : String} {type : RecordType} :
    parseLookup text type = .ok command ↔
      ∃ name : Name, name.text = text ∧ Name.parse name.text = .ok name ∧
        command = .lookup ⟨name, type⟩ := by
  rw [parseLookup]
  constructor
  · intro h
    cases hname : Name.parse text with
    | error fault => simp [hname] at h
    | ok name =>
      obtain rfl := Name.text_of_parse hname
      simp only [hname, Except.ok.injEq] at h
      exact ⟨_, rfl, hname, h.symm⟩
  · rintro ⟨name, rfl, hname, rfl⟩
    rw [hname]

/-- A type is read from its name in any case, because no two types have the same name. -/
theorem parse?_eq_some_iff {typed : String} {type : RecordType} :
    RecordType.parse? typed = some type ↔
      type ∈ RecordType.named ∧ Text.AnyCase typed type.text := by
  have hcapitals : ∀ type ∈ RecordType.named, type.text.toUpper = type.text := by decide +kernel
  have hfound : ∀ type ∈ RecordType.named,
      RecordType.named.find? (fun other => other.text == type.text) = some type := by decide
  constructor
  · intro h
    have hmem : type ∈ RecordType.named := List.mem_of_find?_eq_some h
    have htext : type.text = typed.toUpper := by simpa using List.find?_some h
    exact ⟨hmem, htext ▸ Text.anyCase_toUpper typed⟩
  · rintro ⟨hmem, htyped⟩
    rw [RecordType.parse?, htyped.toUpper_eq (hcapitals type hmem)]
    exact hfound type hmem

theorem map_some_eq_ok {result : Except CommandError Command} :
    (some <$> result : Except CommandError (Option Command)) = .ok (some command) ↔
      result = .ok command := by
  cases result <;> simp [Functor.map, Except.map]

theorem Spelled.of_parseLookupWords
    (hkeyword : Text.AnyCase keyword "lookup" ∨ Text.AnyCase keyword "l")
    (h : parseLookupWords words = .ok command) : Spelled (keyword :: words) command := by
  unfold parseLookupWords at h
  split at h
  · obtain ⟨name, rfl, hname, rfl⟩ := parseLookup_eq_ok.1 h
    exact .lookupAddresses hkeyword hname
  · rename_i text typed
    cases htype : RecordType.parse? typed with
    | none => simp [htype] at h
    | some type =>
      simp only [htype] at h
      obtain ⟨name, rfl, hname, rfl⟩ := parseLookup_eq_ok.1 h
      obtain ⟨hmem, htyped⟩ := parse?_eq_some_iff.1 htype
      exact .lookup hkeyword hname hmem htyped
  · cases h

theorem Spelled.of_parseTraceWords (hkeyword : Text.AnyCase keyword "trace")
    (h : parseTraceWords words = .ok command) : Spelled (keyword :: words) command := by
  unfold parseTraceWords at h
  split at h
  · rename_i setting
    split at h
    · rename_i hon
      cases h
      exact .trace hkeyword (hon ▸ Text.anyCase_toLower setting)
    · split at h
      · rename_i hoff
        cases h
        exact .trace hkeyword (hoff ▸ Text.anyCase_toLower setting)
      · cases h
  · cases h

theorem Spelled.of_parseServerWords (hkeyword : Text.AnyCase keyword "server")
    (h : parseServerWords words = .ok command) : Spelled (keyword :: words) command := by
  unfold parseServerWords at h
  split at h
  · rename_i text
    cases haddress : IpAddress.parse? text with
    | none => simp [haddress] at h
    | some address =>
      simp only [haddress, Except.ok.injEq] at h
      subst h
      exact .server hkeyword haddress
  · cases h

theorem Spelled.of_parseWords (h : parseWords words = .ok (some command)) :
    Spelled words command := by
  cases words with
  | nil => simp [parseWords] at h
  | cons keyword words =>
    have hcase := Text.anyCase_toLower keyword
    simp only [parseWords] at h
    split at h
    · rename_i hkeyword
      cases h
      exact .quit (.inl (hkeyword ▸ hcase)) words
    · rename_i hkeyword
      cases h
      exact .quit (.inr (hkeyword ▸ hcase)) words
    · rename_i hkeyword
      cases h
      exact .dump (hkeyword ▸ hcase) words
    · rename_i hkeyword
      exact .of_parseLookupWords (.inl (hkeyword ▸ hcase)) (map_some_eq_ok.1 h)
    · rename_i hkeyword
      exact .of_parseLookupWords (.inr (hkeyword ▸ hcase)) (map_some_eq_ok.1 h)
    · rename_i hkeyword
      exact .of_parseTraceWords (hkeyword ▸ hcase) (map_some_eq_ok.1 h)
    · rename_i hkeyword
      exact .of_parseServerWords (hkeyword ▸ hcase) (map_some_eq_ok.1 h)
    · cases h

theorem parseWords_lookup (hkeyword : Text.AnyCase keyword "lookup" ∨ Text.AnyCase keyword "l")
    (words : List String) :
    parseWords (keyword :: words) = some <$> parseLookupWords words := by
  rcases hkeyword with hkeyword | hkeyword <;>
    rw [parseWords, hkeyword.toLower_eq (by decide +kernel)] <;> rfl

theorem Spelled.parseWords_eq (h : Spelled words command) :
    parseWords words = .ok (some command) := by
  cases h with
  | lookup hkeyword hname htype htyped =>
    rw [parseWords_lookup hkeyword, map_some_eq_ok, parseLookupWords,
      parse?_eq_some_iff.2 ⟨htype, htyped⟩]
    exact parseLookup_eq_ok.2 ⟨_, rfl, hname, rfl⟩
  | lookupAddresses hkeyword hname =>
    rw [parseWords_lookup hkeyword, map_some_eq_ok, parseLookupWords]
    exact parseLookup_eq_ok.2 ⟨_, rfl, hname, rfl⟩
  | @trace keyword setting on hkeyword hsetting =>
    have hwords : parseTraceWords [setting] = .ok (.trace on) := by
      cases on with
      | true =>
        have hon : setting.toLower = "on" := hsetting.toLower_eq (by decide +kernel)
        simp [parseTraceWords, hon]
      | false =>
        have hoff : setting.toLower = "off" := hsetting.toLower_eq (by decide +kernel)
        simp [parseTraceWords, hoff]
    rw [parseWords, hkeyword.toLower_eq (by decide +kernel)]
    exact map_some_eq_ok.2 hwords
  | @server keyword text address hkeyword haddress =>
    have hwords : parseServerWords [text] = .ok (.server address) := by
      simp [parseServerWords, haddress]
    rw [parseWords, hkeyword.toLower_eq (by decide +kernel)]
    exact map_some_eq_ok.2 hwords
  | dump hkeyword more =>
    rw [parseWords, hkeyword.toLower_eq (by decide +kernel)]
    rfl
  | quit hkeyword more =>
    rcases hkeyword with hkeyword | hkeyword <;>
      rw [parseWords, hkeyword.toLower_eq (by decide +kernel)] <;> rfl

/-! ## Lines -/

/-- The line consists of words without number signs, with white space around them and between any
two, and perhaps of a remark after a number sign. -/
def Typed (words : List String) (line : String) : Prop :=
  ∃ text remark, line.toList = text ++ remark ∧
    Text.Spaced Text.isBlank (words.map String.toList) text ∧
    (∀ word ∈ words, '#' ∉ word.toList) ∧
    ∀ c, remark.head? = some c → c = '#'

/-- What stands before the first number sign has the words that a line is typed with. -/
theorem words_withoutComment_iff {line : String} :
    Text.words (withoutComment line) = words ↔ Typed words line := by
  rw [Text.words_eq_iff, withoutComment, String.toList_ofList]
  constructor
  · intro hspaced
    refine ⟨_, _, List.takeWhile_append_dropWhile.symm, hspaced, fun word hword hsign => ?_,
      fun c hc => ?_⟩
    · have hmem := hspaced.mem_of_mem_word (List.mem_map_of_mem hword) hsign
      simpa using List.mem_takeWhile_imp hmem
    · have hnot := List.head?_dropWhile_not (· != '#') line.toList
      rw [hc] at hnot
      simpa using hnot
  · rintro ⟨text, remark, hline, hspaced, hwords, hremark⟩
    have htext : ∀ c ∈ text, (c != '#') = true := by
      intro c hc
      rw [bne_iff_ne]
      rintro rfl
      rcases hspaced.mem hc with hblank | ⟨word, hword, hsign⟩
      · exact absurd hblank (by decide)
      · obtain ⟨typed, htyped, rfl⟩ := List.mem_map.1 hword
        exact hwords typed htyped hsign
    have hnone : remark.takeWhile (· != '#') = [] := by
      cases remark with
      | nil => rfl
      | cons c remark =>
        obtain rfl := hremark c rfl
        rfl
    rw [hline, List.takeWhile_append_of_pos htext, hnone, List.append_nil]
    exact hspaced

/-- **A line is read as a command exactly if it spells it.**  It spells a command by the words that
make it, with any white space between them and around them, with any case of the letters in the
keyword, in the type and in the setting, and with any remark at its end.  A name is kept as it is
written. -/
theorem parse_eq_some_iff (line : String) (command : Command) :
    parse line = .ok (some command) ↔ ∃ words, Spelled words command ∧ Typed words line := by
  constructor
  · intro h
    exact ⟨_, .of_parseWords h, words_withoutComment_iff.1 rfl⟩
  · rintro ⟨words, hspelled, htyped⟩
    rw [parse, words_withoutComment_iff.2 htyped]
    exact hspelled.parseWords_eq

example : parse "  LookUp\tWww.Example.COM  mX # mail" =
    .ok (some (.lookup ⟨⟨"Www.Example.COM"⟩, .mx⟩)) := by
  decide +kernel

end Command

end IterativeDns
