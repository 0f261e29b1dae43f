import IterativeDns.Name.Basic

/-!
# Names as text and as octets

The labels of a name stand in its text, with dots between them, and each label stands for some
octets.  This file shows that the text of given labels stands for just these labels, and says which
labels a name that was parsed can have.

* `Text.splitAtChar_joinWith` — pieces without separators are found again after they were joined.
* `Name.labels_ofRawLabels`, `Name.rawLabels_ofRawLabels` — the labels of a name made of labels.
* `Name.IsValid` — a name whose labels can be encoded; `Name.isValid_of_parse` says that every name
  that was parsed is one, and `Name.IsValid.parse_text` that no others are.
* `Name.canonical` — the one way to spell a name that reading it from a message yields.
-/

namespace IterativeDns

/-! ## Splitting what was joined -/

namespace Text

variable {separator : Char} {piece rest : List Char}

theorem splitAtChar_cons_self (separator : Char) (rest : List Char) :
    splitAtChar separator (separator :: rest) = [] :: splitAtChar separator rest := by
  simp [splitAtChar, splitWhere]

/-- A character that is no separator belongs to the first piece of what follows. -/
theorem splitAtChar_cons_of_ne {c : Char} (hne : c ≠ separator) {pieces : List (List Char)}
    (hrest : splitAtChar separator rest = piece :: pieces) :
    splitAtChar separator (c :: rest) = (c :: piece) :: pieces := by
  unfold splitAtChar at hrest ⊢
  simp [splitWhere, hne, hrest]

theorem splitAtChar_of_not_mem (hpiece : separator ∉ piece) :
    splitAtChar separator piece = [piece] := by
  induction piece with
  | nil => rfl
  | cons c piece ih =>
    rw [List.mem_cons, not_or] at hpiece
    exact splitAtChar_cons_of_ne (Ne.symm hpiece.1) (ih hpiece.2)

/-- The first separator ends the first piece. -/
theorem splitAtChar_append_cons (hpiece : separator ∉ piece) (rest : List Char) :
    splitAtChar separator (piece ++ separator :: rest) = piece :: splitAtChar separator rest := by
  induction piece with
  | nil => exact splitAtChar_cons_self separator rest
  | cons c piece ih =>
    rw [List.mem_cons, not_or] at hpiece
    exact splitAtChar_cons_of_ne (Ne.symm hpiece.1) (ih hpiece.2)

theorem splitAtChar_joinWith {pieces : List (List Char)} (hne : pieces ≠ [])
    (hpieces : ∀ piece ∈ pieces, separator ∉ piece) :
    splitAtChar separator (joinWith separator pieces) = pieces := by
  induction pieces with
  | nil => exact absurd rfl hne
  | cons piece pieces ih =>
    have hpiece := hpieces piece List.mem_cons_self
    cases pieces with
    | nil => exact splitAtChar_of_not_mem hpiece
    | cons next pieces =>
      rw [joinWith, splitAtChar_append_cons hpiece]
      · rw [ih (List.cons_ne_nil next pieces) fun other hother =>
          hpieces other (List.mem_cons_of_mem piece hother)]
      · exact List.cons_ne_nil next pieces

/-- A separator at the end is followed by an empty piece. -/
theorem splitAtChar_append_singleton (separator : Char) (cs : List Char) :
    splitAtChar separator (cs ++ [separator]) = splitAtChar separator cs ++ [[]] := by
  induction cs with
  | nil => simp [splitAtChar, splitWhere]
  | cons c cs ih =>
    by_cases hc : c = separator
    · rw [hc, List.cons_append, splitAtChar_cons_self, splitAtChar_cons_self, ih, List.cons_append]
    · cases hcs : splitAtChar separator cs with
      | nil => exact absurd hcs (splitWhere_ne_nil _ cs)
      | cons piece pieces =>
        rw [hcs, List.cons_append] at ih
        rw [List.cons_append, splitAtChar_cons_of_ne hc ih, splitAtChar_cons_of_ne hc hcs,
          List.cons_append]

end Text

/-! ## Texts of labels -/

namespace Label

theorem dot_not_mem_escapeOctet (octet : UInt8) : '.' ∉ escapeOctet octet := by
  have key : ∀ n : Fin 256, '.' ∉ escapeOctet (UInt8.ofNat n) := by decide +kernel
  simpa using key ⟨octet.toNat, octet.toNat_lt⟩

/-- The dots of a label are not written as dots. -/
theorem dot_not_mem_escape (octets : Octets) : '.' ∉ escape octets := by
  intro hmem
  obtain ⟨octet, -, hdot⟩ := List.mem_flatMap.1 hmem
  exact dot_not_mem_escapeOctet octet hdot

theorem escape_ne_nil {octets : Octets} (h : octets ≠ []) : escape octets ≠ [] := by
  intro hnil
  apply h
  rw [← octetsOfText_escape octets, hnil]
  rfl

theorem unescape_ne_nil {octets : Octets} (h : octets ≠ []) : unescape octets ≠ [] := by
  fun_cases unescape octets <;> simp_all

/-- A label that is written has at least one octet. -/
theorem octetsOfText_ne_nil {cs : List Char} (h : cs ≠ []) : octetsOfText cs ≠ [] := by
  refine unescape_ne_nil fun hnil => ?_
  obtain ⟨c, rest, rfl⟩ := List.exists_cons_of_ne_nil h
  rw [utf8, List.flatMap_cons, List.append_eq_nil_iff] at hnil
  have hlength := String.length_utf8EncodeChar c
  rw [hnil.1, List.length_nil] at hlength
  have hpos := Char.utf8Size_pos c
  omega

end Label

namespace Name

theorem splitAtChar_ofRawLabels {raw : List Octets} (hne : raw ≠ []) :
    Text.splitAtChar '.' (ofRawLabels raw).text.toList = raw.map Label.escape := by
  rw [ofRawLabels, String.toList_ofList]
  refine Text.splitAtChar_joinWith (by simpa using hne) fun piece hmem => ?_
  obtain ⟨label, -, rfl⟩ := List.mem_map.1 hmem
  exact Label.dot_not_mem_escape label

/-- The text of a name with given labels holds these labels, each of them escaped. -/
theorem labels_ofRawLabels {raw : List Octets} (hraw : ∀ label ∈ raw, label ≠ []) :
    (ofRawLabels raw).labels = raw.map Label.escape := by
  rw [labels]
  by_cases hnil : raw = []
  · rw [hnil]
    rfl
  · rw [splitAtChar_ofRawLabels hnil]
    refine List.filter_eq_self.2 fun piece hmem => ?_
    obtain ⟨label, hlabel, rfl⟩ := List.mem_map.1 hmem
    have hne := Label.escape_ne_nil (hraw label hlabel)
    simpa using hne

/-- **A name with given labels has just these labels,** whatever octets they hold. -/
theorem rawLabels_ofRawLabels {raw : List Octets} (hraw : ∀ label ∈ raw, label ≠ []) :
    (ofRawLabels raw).rawLabels = raw := by
  rw [rawLabels, labels_ofRawLabels hraw, List.map_map]
  calc raw.map (Label.octetsOfText ∘ Label.escape)
      = raw.map id := List.map_congr_left fun label _ => Label.octetsOfText_escape label
    _ = raw := List.map_id raw

/-! ## Names that can be encoded -/

/-- The name without the dot at its end, and each of its labels escaped in the one way in which
labels that are read from a message are. -/
def canonical (name : Name) : Name :=
  let pieces := Text.splitAtChar '.' (dropFinalDot name.text.toList)
  ⟨String.ofList (Text.joinWith '.' (pieces.map (Label.escape ∘ Label.octetsOfText)))⟩

/-- A name that can be encoded and read again. -/
structure IsValid (name : Name) : Prop where
  /-- No label is empty, but for the root and after a dot at the end. -/
  spelled : dropFinalDot name.text.toList = [] ∨
    ∀ piece ∈ Text.splitAtChar '.' (dropFinalDot name.text.toList), piece ≠ []
  /-- No label has too many octets. -/
  length_label_le : ∀ label ∈ name.rawLabels, label.length ≤ 63
  /-- The labels do not have too many octets together. -/
  encodedLength_le : name.encodedLength ≤ maxNameLength

theorem dropFinalDot_append_singleton (cs : List Char) : dropFinalDot (cs ++ ['.']) = cs := by
  simp [dropFinalDot]

/-- A text without empty pieces has no dot at its end. -/
theorem dropFinalDot_eq_self {cs : List Char} (h : ∀ piece ∈ Text.splitAtChar '.' cs, piece ≠ []) :
    dropFinalDot cs = cs := by
  rw [dropFinalDot]
  refine if_neg fun hdot => ?_
  obtain ⟨front, rfl⟩ := List.getLast?_eq_some_iff.1 hdot
  rw [Text.splitAtChar_append_singleton] at h
  exact h [] (List.mem_append_right _ (List.mem_singleton.2 rfl)) rfl

/-- A dot at the end of a text does not make a label. -/
theorem labels_eq_filter_dropFinalDot (name : Name) :
    name.labels = (Text.splitAtChar '.' (dropFinalDot name.text.toList)).filter (!·.isEmpty) := by
  rw [labels]
  by_cases hdot : name.text.toList.getLast? = some '.'
  · obtain ⟨cs, hcs⟩ := List.getLast?_eq_some_iff.1 hdot
    rw [hcs, dropFinalDot_append_singleton, Text.splitAtChar_append_singleton, List.filter_append]
    simp
  · rw [dropFinalDot, if_neg hdot]

namespace IsValid

variable {name : Name}

/-- A valid name is the root, or its labels are the pieces of its text. -/
theorem labels_eq (h : name.IsValid) :
    (dropFinalDot name.text.toList = [] ∧ name.labels = []) ∨
      name.labels = Text.splitAtChar '.' (dropFinalDot name.text.toList) := by
  rw [labels_eq_filter_dropFinalDot]
  rcases h.spelled with hnil | hne
  · left
    rw [hnil]
    exact ⟨rfl, rfl⟩
  · right
    refine List.filter_eq_self.2 fun piece hmem => ?_
    simpa using hne piece hmem

/-- **The canonical name is the one that reading the labels yields.** -/
theorem canonical_eq (h : name.IsValid) : name.canonical = ofRawLabels name.rawLabels := by
  rw [canonical, ofRawLabels, rawLabels, List.map_map]
  rcases h.labels_eq with ⟨hnil, hlabels⟩ | hlabels
  · rw [hnil, hlabels]
    rfl
  · rw [hlabels]

theorem length_label_pos {label : Octets} (hmem : label ∈ name.rawLabels) : 1 ≤ label.length := by
  obtain ⟨piece, hpiece, rfl⟩ := List.mem_map.1 hmem
  have hne : piece ≠ [] := by
    have hfilter := (List.mem_filter.1 hpiece).2
    rintro rfl
    simp at hfilter
  exact List.length_pos_iff.2 (Label.octetsOfText_ne_nil hne)

end IsValid

theorem labelFault?_eq_none {text : String} {piece : List Char}
    (h : labelFault? text piece = none) :
    piece ≠ [] ∧ (Label.octetsOfText piece).length ≤ 63 := by
  unfold labelFault? at h
  split at h
  · cases h
  · rename_i hne
    split at h
    · cases h
    · rename_i hlength
      exact ⟨by simpa using hne, Nat.not_lt.1 hlength⟩

/-- A text in which nothing is wrong with a label is that of the root, or has no empty piece and no
long one. -/
theorem pieces_of_labelsFault?_eq_none {text : String} (h : labelsFault? text = none) :
    dropFinalDot text.toList = [] ∨
      ∀ piece ∈ Text.splitAtChar '.' (dropFinalDot text.toList),
        piece ≠ [] ∧ (Label.octetsOfText piece).length ≤ 63 := by
  unfold labelsFault? at h
  by_cases hnil : dropFinalDot text.toList = []
  · exact .inl hnil
  · rw [if_neg (by simpa using hnil), List.findSome?_eq_none_iff] at h
    exact .inr fun piece hmem => labelFault?_eq_none (h piece hmem)

theorem of_parse_eq_ok {text : String} {name : Name} (h : parse text = .ok name) :
    labelsFault? text = none ∧ encodedLength ⟨text⟩ ≤ maxNameLength := by
  unfold parse at h
  split at h
  · cases h
  · rename_i hfault
    split at h
    · cases h
    · rename_i hlength
      exact ⟨hfault, Nat.not_lt.1 hlength⟩

/-- **Every name that was parsed is valid.** -/
theorem isValid_of_parse {text : String} {name : Name} (h : parse text = .ok name) :
    name.IsValid := by
  obtain ⟨hfault, hlength⟩ := of_parse_eq_ok h
  obtain rfl := text_of_parse h
  have hpieces := pieces_of_labelsFault?_eq_none hfault
  refine ⟨hpieces.imp_right fun hgood piece hmem => (hgood piece hmem).1, ?_, hlength⟩
  intro label hmem
  obtain ⟨piece, hpiece, rfl⟩ := List.mem_map.1 hmem
  rw [labels_eq_filter_dropFinalDot] at hpiece
  rcases hpieces with hnil | hgood
  · rw [hnil] at hpiece
    exact absurd hpiece List.not_mem_nil
  · exact (hgood piece (List.mem_filter.1 hpiece).1).2

namespace IsValid

variable {name : Name}

theorem labelsFault?_eq_none (h : name.IsValid) : labelsFault? name.text = none := by
  unfold labelsFault?
  by_cases hnil : dropFinalDot name.text.toList = []
  · rw [if_pos (by simpa using hnil)]
  · rw [if_neg (by simpa using hnil)]
    refine List.findSome?_eq_none_iff.2 fun piece hmem => ?_
    have hne := h.spelled.resolve_left hnil piece hmem
    have hlabel : piece ∈ name.labels := by
      rw [labels_eq_filter_dropFinalDot]
      exact List.mem_filter.2 ⟨hmem, by simpa using hne⟩
    have hlength : (Label.octetsOfText piece).length ≤ maxLabelLength :=
      h.length_label_le _ (List.mem_map.2 ⟨piece, hlabel, rfl⟩)
    rw [labelFault?, if_neg (by simpa using hne), if_neg (Nat.not_lt.2 hlength)]

/-- **Every valid name can be parsed,** and is kept as written. -/
theorem parse_text (h : name.IsValid) : parse name.text = .ok name := by
  rw [parse, h.labelsFault?_eq_none]
  exact if_neg (Nat.not_lt.2 h.encodedLength_le)

end IsValid

section OfRawLabels

variable {raw : List Octets} (hraw : ∀ label ∈ raw, 1 ≤ label.length ∧ label.length ≤ 63)

include hraw

theorem ne_nil_of_mem_raw : ∀ label ∈ raw, label ≠ [] :=
  fun label hmem => List.length_pos_iff.1 (hraw label hmem).1

/-- No dot comes last in the text of given labels. -/
theorem dropFinalDot_ofRawLabels :
    dropFinalDot (ofRawLabels raw).text.toList = (ofRawLabels raw).text.toList := by
  by_cases hnil : raw = []
  · rw [hnil]
    rfl
  · refine dropFinalDot_eq_self fun piece hmem => ?_
    rw [splitAtChar_ofRawLabels hnil] at hmem
    obtain ⟨label, hlabel, rfl⟩ := List.mem_map.1 hmem
    exact Label.escape_ne_nil (ne_nil_of_mem_raw hraw label hlabel)

/-- The name with given labels is valid, if they can be encoded. -/
theorem isValid_ofRawLabels (hlength : labelsLength raw ≤ maxNameLength) :
    (ofRawLabels raw).IsValid := by
  have hrawLabels := rawLabels_ofRawLabels (ne_nil_of_mem_raw hraw)
  refine ⟨?_, ?_, ?_⟩
  · rw [dropFinalDot_ofRawLabels hraw]
    by_cases hnil : raw = []
    · rw [hnil]
      exact .inl rfl
    · right
      rw [splitAtChar_ofRawLabels hnil]
      intro piece hmem
      obtain ⟨label, hlabel, rfl⟩ := List.mem_map.1 hmem
      exact Label.escape_ne_nil (ne_nil_of_mem_raw hraw label hlabel)
  · rw [hrawLabels]
    exact fun label hmem => (hraw label hmem).2
  · rw [encodedLength, hrawLabels]
    exact hlength

end OfRawLabels

end Name

end IterativeDns
