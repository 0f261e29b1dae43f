import IterativeDns.Shell.Report
import IterativeDns.Proofs.Words

/-!
# What the lines of the shell say

The shell lays out what it shows in columns, and fills them up with spaces.  What a line says are
its words.  This file finds them again: columns may be wider or narrower than what stands in them,
but nothing is cut off and nothing runs together.

* `Report.words` — the words of a line, between spaces.
* `Report.words_columns` — the words of columns are those of what stands in them.
* `Report.words_recordLine`, `Report.words_placeholder` — the lines about the records found for a
  query, and about none.
* `Report.placeholder_ne_recordLine` — the line about no records is not that of a record, even of
  one under another name, unless the name has a space in it.
* `Report.words_event` — the lines about an event.
-/

namespace IterativeDns

/-! ## Columns without blanks -/

namespace Text

theorem isAlphanum_of_mem_decimal {n : Nat} {c : Char} (hc : c ∈ (decimal n).toList) :
    c.isAlphanum = true := by
  rw [decimal, Nat.repr_eq_ofList_toDigits, String.toList_ofList] at hc
  rw [Char.isAlphanum, Nat.isDigit_of_mem_toDigits (by decide) (by decide) hc, Bool.or_true]

theorem toList_decimal_ne_nil (n : Nat) : (decimal n).toList ≠ [] := by
  rw [decimal, Nat.repr_eq_ofList_toDigits, String.toList_ofList]
  exact Nat.toDigits_ne_nil

theorem decimal_inj {m n : Nat} (h : decimal m = decimal n) : m = n := by
  rw [decimal, decimal, Nat.repr_eq_ofList_toDigits, Nat.repr_eq_ofList_toDigits] at h
  have hvalue := congrArg (Nat.ofDigitChars 10 · 0) (String.ofList_injective h)
  simpa only [Nat.ofDigitChars_toDigits (show 1 < 10 by decide) (Nat.le_refl 10)] using hvalue

end Text

theorem RecordType.isAlphanum_of_mem_text {type : RecordType} {c : Char}
    (hc : c ∈ type.text.toList) : c.isAlphanum = true := by
  have hall : type.text.toList.all Char.isAlphanum = true := by
    cases type with
    | other code => exact List.all_eq_true.2 fun _ => Text.isAlphanum_of_mem_decimal
    | _ => decide
  exact List.all_eq_true.1 hall c hc

theorem RecordType.toList_text_ne_nil (type : RecordType) : type.text.toList ≠ [] := by
  cases type with
  | other code => exact Text.toList_decimal_ne_nil _
  | _ => decide

theorem Name.toList_shown_ne_nil (name : Name) : name.shown.toList ≠ [] := by
  rw [shown]
  split
  · decide
  · rename_i hroot
    intro hnil
    refine hroot ?_
    rw [isRoot, labels, hnil]
    rfl

namespace Report

/-! ## Words of a line -/

/-- The words of a line, between spaces. -/
def words (line : String) : List (List Char) := Text.wordsBetween (· == ' ') line.toList

theorem words_of_not_mem {text : String} (hne : text.toList ≠ []) (hspace : ' ' ∉ text.toList) :
    words text = [text.toList] :=
  Text.wordsBetween_of_forall hne fun _ hc => beq_eq_false_iff_ne.2 fun hc' => hspace (hc' ▸ hc)

theorem words_of_isAlphanum {text : String} (hne : text.toList ≠ [])
    (htext : ∀ c ∈ text.toList, c.isAlphanum = true) : words text = [text.toList] :=
  words_of_not_mem hne fun hspace => absurd (htext _ hspace) (by decide)

theorem words_decimal (n : Nat) : words (Text.decimal n) = [(Text.decimal n).toList] :=
  words_of_isAlphanum (Text.toList_decimal_ne_nil n) fun _ => Text.isAlphanum_of_mem_decimal

theorem words_type (type : RecordType) : words type.text = [type.text.toList] :=
  words_of_isAlphanum type.toList_text_ne_nil fun _ => RecordType.isAlphanum_of_mem_text

theorem wordsBetween_space (cs rest : List Char) :
    Text.wordsBetween (· == ' ') (cs ++ ' ' :: rest) =
      Text.wordsBetween (· == ' ') cs ++ Text.wordsBetween (· == ' ') rest :=
  Text.wordsBetween_append_cons (by decide) cs rest

/-- Words do not run together where a space is between them. -/
theorem words_append (first rest : String) (h : first.toList.getLast? = some ' ') :
    words (first ++ rest) = words first ++ words rest := by
  obtain ⟨front, hfront⟩ := List.getLast?_eq_some_iff.1 h
  have hfirst : words first = Text.wordsBetween (· == ' ') front := by
    rw [words, hfront, wordsBetween_space]
    exact List.append_nil _
  rw [hfirst, words, String.toList_append, hfront, List.append_assoc]
  exact wordsBetween_space _ _

/-- What has spaces at both its ends keeps what is before it apart from what is after it. -/
theorem words_append_append (first gap rest : String) (hhead : gap.toList.head? = some ' ')
    (hlast : gap.toList.getLast? = some ' ') :
    words (first ++ gap ++ rest) = words first ++ (words gap ++ words rest) := by
  obtain ⟨inside, hinside⟩ := List.head?_eq_some_iff.1 hhead
  have hgap : words gap = Text.wordsBetween (· == ' ') inside := by
    rw [words, hinside]
    exact wordsBetween_space [] inside
  have hfirst : words (first ++ gap) = words first ++ words gap := by
    rw [hgap, words, String.toList_append, hinside]
    exact wordsBetween_space _ _
  have hend : (first ++ gap).toList.getLast? = some ' ' := by
    rw [String.toList_append, List.getLast?_append, hlast]
    rfl
  rw [words_append _ _ hend, hfirst, List.append_assoc]

/-- The words of columns are those of what stands in them. -/
theorem words_columns (columns : List (Nat × String)) (last : String) :
    words (" ".intercalate
      (columns.map (fun column => Text.padRight column.1 column.2) ++ [last])) =
      columns.flatMap (words ·.2) ++ words last := by
  induction columns with
  | nil =>
    rw [List.map_nil, List.nil_append, String.intercalate_singleton]
    rfl
  | cons column columns ih =>
    have hne : columns.map (fun column => Text.padRight column.1 column.2) ++ [last] ≠ [] :=
      List.append_ne_nil_of_right_ne_nil _ (List.cons_ne_nil _ _)
    rw [List.map_cons, List.cons_append, String.intercalate_cons_of_ne_nil hne, List.flatMap_cons,
      List.append_assoc, ← ih, words, Text.padRight, String.append_assoc, String.toList_append,
      String.toList_append, String.toList_append, String.toList_ofList]
    exact Text.wordsBetween_append_replicate (by decide) _ _ _

/-! ## Results -/

theorem results_eq_ite (query : Query) (records : List Record) :
    results query records =
      if records = [] then [placeholder query] else records.map (recordLine query) := by
  cases records with
  | nil => rfl
  | cons first rest => rfl

theorem toList_line (query : Query) (ttl data : String) : (line query ttl data).toList =
    (Text.padRight 30 query.name.shown).toList ++ ' ' ::
      ((Text.padRight 5 query.type.text).toList ++ ' ' ::
        ((Text.padRight 8 ttl).toList ++ ' ' :: data.toList)) := by
  simp only [line, String.intercalate_cons_cons, String.intercalate_singleton, String.toList_append,
    List.append_assoc]
  rfl

/-- The words of a line are those of its columns. -/
theorem words_line (query : Query) (ttl data : String) :
    words (line query ttl data) =
      words query.name.shown ++ query.type.text.toList :: (words ttl ++ words data) := by
  have hcolumns := words_columns [(30, query.name.shown), (5, query.type.text), (8, ttl)] data
  simp only [List.map_cons, List.map_nil, List.cons_append, List.nil_append, List.flatMap_cons,
    List.flatMap_nil, List.append_nil, List.append_assoc, words_type] at hcolumns
  rw [line, hcolumns]

theorem head?_line (query : Query) (ttl data : String) :
    (line query ttl data).toList.head? = query.name.shown.toList.head? := by
  obtain ⟨c, cs, hshown⟩ := List.exists_cons_of_ne_nil (Name.toList_shown_ne_nil query.name)
  rw [toList_line, Text.padRight, String.toList_append, hshown]
  rfl

theorem ne_minusOne {cs : List Char} (hcs : ∀ c ∈ cs, c.isAlphanum = true) : cs ≠ "-1".toList := by
  rintro rfl
  exact absurd (hcs '-' (by decide)) (by decide)

/-- The line about no records is not that of a record found for the same query. -/
theorem placeholder_ne_recordLine_self (query : Query) (record : Record) :
    placeholder query ≠ recordLine query record := by
  intro h
  have hline := congrArg String.toList h
  obtain ⟨c, cs, httl⟩ := List.exists_cons_of_ne_nil (Text.toList_decimal_ne_nil record.ttl.toNat)
  have hc : c.isAlphanum = true := Text.isAlphanum_of_mem_decimal (httl ▸ List.mem_cons_self)
  rw [placeholder, recordLine, toList_line, toList_line] at hline
  have hrest := (List.cons.inj (List.append_cancel_left hline)).2
  have httls := (List.cons.inj (List.append_cancel_left hrest)).2
  rw [Text.padRight, Text.padRight, String.toList_append, String.toList_append, httl] at httls
  obtain rfl : '-' = c := (List.cons.inj httls).1
  exact absurd hc (by decide)

theorem words_recordLine (key : Query) (record : Record) : words (recordLine key record) =
    words key.name.shown ++ key.type.text.toList ::
      (Text.decimal record.ttl.toNat).toList :: words record.data.text := by
  rw [recordLine, words_line, words_decimal, List.singleton_append]

theorem words_placeholder {query : Query} (hspace : ' ' ∉ query.name.shown.toList) :
    words (placeholder query) =
      [query.name.shown.toList, query.type.text.toList, "-1".toList, "0.0.0.0".toList] := by
  rw [placeholder, words_line, words_of_not_mem (Name.toList_shown_ne_nil _) hspace]
  rfl

/-- The line about no records is not that of a record, even under another name: that line would
have the time to live as its third word, or the type, or it would have more than four words. -/
theorem placeholder_ne_recordLine {query : Query} (hspace : ' ' ∉ query.name.shown.toList)
    (key : Query) (record : Record) : placeholder query ≠ recordLine key record := by
  intro h
  have hhead : query.name.shown.toList.head? = key.name.shown.toList.head? := by
    rw [← head?_line query "-1" "0.0.0.0", ← head?_line key _ record.data.text]
    exact congrArg (·.toList.head?) h
  have hwords := congrArg words h
  rw [words_placeholder hspace, words_recordLine] at hwords
  match hkey : words key.name.shown with
  | [] =>
    obtain ⟨c, cs, hname⟩ := List.exists_cons_of_ne_nil (Name.toList_shown_ne_nil query.name)
    rw [hname] at hhead hspace
    have hc : (c == ' ') = false := beq_eq_false_iff_ne.2 fun hc => hspace (hc ▸ List.mem_cons_self)
    exact Text.wordsBetween_ne_nil hhead.symm hc hkey
  | [name] =>
    rw [hkey] at hwords
    simp only [List.singleton_append, List.cons.injEq] at hwords
    exact ne_minusOne (fun _ => Text.isAlphanum_of_mem_decimal) hwords.2.2.1.symm
  | [first, second] =>
    rw [hkey] at hwords
    simp only [List.cons_append, List.nil_append, List.cons.injEq] at hwords
    exact ne_minusOne (fun _ => RecordType.isAlphanum_of_mem_text) hwords.2.2.1.symm
  | first :: second :: third :: rest =>
    have hlength := congrArg List.length hwords
    rw [hkey] at hlength
    simp only [List.length_append, List.length_cons, List.length_nil] at hlength
    omega

/-! ## Events -/

/-- What is said about a record in a response. -/
def responseWords (record : Record) : List (List Char) :=
  words record.name.shown ++ (Text.decimal record.ttl.toNat).toList ::
    record.type.text.toList :: words record.data.text

theorem words_responseLine (record : Record) :
    words (responseLine record) = responseWords record := by
  have hcolumns := words_columns [(30, record.name.shown),
    (10, Text.decimal record.ttl.toNat), (4, record.type.text)] record.data.text
  simp only [List.map_cons, List.map_nil, List.cons_append, List.nil_append, List.flatMap_cons,
    List.flatMap_nil, List.append_nil, List.append_assoc, words_decimal, words_type] at hcolumns
  have hindent : words "       " = [] := by decide
  rw [responseLine, words_append "       " _ (by decide), hcolumns, hindent, List.nil_append,
    responseWords]

theorem words_heading (title : String) (count : Nat) :
    words ("  " ++ title ++ " (" ++ Text.decimal count ++ ")") =
      words title ++ [("(" ++ Text.decimal count ++ ")").toList] := by
  have hsplit : "  " ++ title ++ " (" ++ Text.decimal count ++ ")" =
      "  " ++ title ++ " " ++ ("(" ++ Text.decimal count ++ ")") := by
    rw [show " (" = " " ++ "(" from rfl]
    simp only [String.append_assoc]
  have hcount : words ("(" ++ Text.decimal count ++ ")") =
      [("(" ++ Text.decimal count ++ ")").toList] := by
    refine words_of_not_mem (by simp) fun hspace => ?_
    simp only [String.toList_append, List.mem_append] at hspace
    rcases hspace with (hspace | hspace) | hspace
    · exact absurd hspace (by decide)
    · exact absurd (Text.isAlphanum_of_mem_decimal hspace) (by decide)
    · exact absurd hspace (by decide)
  have hindent : words "  " = [] := by decide
  have hgap : words " " = [] := by decide
  rw [hsplit, words_append_append _ " " _ (by decide) (by decide), words_append "  " _ (by decide),
    hcount, hindent, hgap]
  rfl

/-- The heading of a section says how many records there are, and each has a line. -/
theorem words_sectionLines (message : Message) (part : Section) :
    (sectionLines message part).map words =
      (words part.title ++
        [("(" ++ Text.decimal (message.recordsOf part).length ++ ")").toList]) ::
      (message.recordsOf part).map responseWords := by
  have hlines : words ∘ responseLine = responseWords := by
    funext record
    rw [Function.comp_apply, words_responseLine]
  rw [sectionLines, List.map_cons, words_heading, List.map_map, hlines]

/-- **What is said about an event.** -/
theorem words_event (told : TraceEvent) : (event told).map words =
    match told with
    | .querySent id query server _ =>
      [[], [], "Query".toList :: "ID".toList :: (Text.decimal id.toNat).toList ::
        (words query.name.shown ++ query.type.text.toList :: "-->".toList :: words server.text)]
    | .response _ message =>
      ["Response".toList, "ID:".toList, (Text.decimal message.id.toNat).toList,
          "Authoritative".toList, "=".toList,
          (if message.isAuthoritative then "true" else "false").toList] ::
        Section.all.flatMap fun part =>
          (words part.title ++
            [("(" ++ Text.decimal (message.recordsOf part).length ++ ")").toList]) ::
          (message.recordsOf part).map responseWords
    | .failed query reason =>
      ["Lookup".toList :: "of".toList ::
        (words query.text ++ "failed:".toList :: words reason.message)] := by
  cases told with
  | querySent id query server attempt =>
    have hnone : words "" = [] := by decide
    have hheading : words "Query ID     " = ["Query".toList, "ID".toList] := by decide
    have hgap : words " " = [] := by decide
    have hgaps : words "  " = [] := by decide
    have harrow : words " --> " = ["-->".toList] := by decide
    simp only [event, List.map_cons, List.map_nil]
    rw [words_append_append _ " --> " _ (by decide) (by decide),
      words_append_append _ "  " _ (by decide) (by decide),
      words_append_append _ " " _ (by decide) (by decide),
      words_append "Query ID     " _ (by decide), words_decimal, words_type, hnone, hheading, hgap,
      hgaps, harrow]
    simp
  | response id message =>
    have hheading : words "Response ID: " = ["Response".toList, "ID:".toList] := by decide
    have hgap : words " Authoritative = " = ["Authoritative".toList, "=".toList] := by decide
    have hflag : words (if message.isAuthoritative then "true" else "false") =
        [(if message.isAuthoritative then "true" else "false").toList] := by
      split
      · decide
      · decide
    simp only [event, List.map_cons, List.map_flatMap, words_sectionLines]
    rw [words_append_append _ " Authoritative = " _ (by decide) (by decide),
      words_append "Response ID: " _ (by decide), words_decimal, hheading, hgap, hflag]
    rfl
  | failed query reason =>
    have hheading : words "Lookup of " = ["Lookup".toList, "of".toList] := by decide
    have hgap : words " failed: " = ["failed:".toList] := by decide
    simp only [event, List.map_cons, List.map_nil]
    rw [words_append_append _ " failed: " _ (by decide) (by decide),
      words_append "Lookup of " _ (by decide), hheading, hgap]
    rfl

end Report

end IterativeDns
