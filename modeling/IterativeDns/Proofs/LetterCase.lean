import IterativeDns.Cache
import IterativeDns.Proofs.Reencoding
import IterativeDns.Proofs.WireForm
import Mathlib

/-!
# Names and the case of letters

In the domain name system two names are the same if their encodings are, up to the case of ASCII
letters.  Normalizing a name works on its text instead, in which any octet may be escaped.  This
file shows how the two go together.

* `Octets.foldCase` — octets with small letters for capital ones.
* `Label.foldCase_unescape` — the case of letters does not change what the escapes of a text mean.
* `Name.IsValid.foldCase_encode_normalized` — normalizing a name keeps its encoding, up to case, and
  `Name.IsValid.normalized` says that it keeps a valid name valid.
* `Name.IsRead.encode_normalized` — the encoding of a name that was read, in small letters, is the
  encoding of its normalized form.
* `Name.normalized_follows_wire` — **names that were read have the same normalized form exactly if
  they are the same up to case,** and so have their records in a cache.
-/

namespace IterativeDns

/-! ## Small letters for capital ones -/

namespace Octets

/-- The small letter in the place of a capital one. -/
def foldOctet (octet : UInt8) : UInt8 :=
  if 0x41 ≤ octet ∧ octet ≤ 0x5a then octet + 0x20 else octet

/-- Octets with small letters in the place of capital ones. -/
def foldCase (octets : Octets) : Octets := octets.map foldOctet

theorem foldOctet_foldOctet (octet : UInt8) : foldOctet (foldOctet octet) = foldOctet octet := by
  have key : ∀ n : Fin 256,
      foldOctet (foldOctet (UInt8.ofNat n)) = foldOctet (UInt8.ofNat n) := by decide +kernel
  simpa using key ⟨octet.toNat, octet.toNat_lt⟩

theorem foldOctet_of_lt {octet : UInt8} (h : octet.toNat < 0x41) : foldOctet octet = octet := by
  rw [foldOctet, if_neg]
  rw [UInt8.le_iff_toNat_le]
  exact fun hcapital => absurd hcapital.1 (Nat.not_le.2 h)

theorem foldOctet_of_gt {octet : UInt8} (h : 0x5a < octet.toNat) : foldOctet octet = octet := by
  rw [foldOctet, if_neg]
  rw [UInt8.le_iff_toNat_le, UInt8.le_iff_toNat_le]
  exact fun hcapital => absurd hcapital.2 (Nat.not_le.2 h)

@[simp] theorem foldCase_nil : foldCase [] = [] := rfl

@[simp] theorem foldCase_cons (octet : UInt8) (octets : Octets) :
    foldCase (octet :: octets) = foldOctet octet :: foldCase octets := rfl

@[simp] theorem foldCase_append (octets octets' : Octets) :
    foldCase (octets ++ octets') = foldCase octets ++ foldCase octets' := List.map_append

@[simp] theorem length_foldCase (octets : Octets) : (foldCase octets).length = octets.length :=
  List.length_map _

@[simp] theorem foldCase_foldCase (octets : Octets) :
    foldCase (foldCase octets) = foldCase octets := by
  simp [foldCase, foldOctet_foldOctet]

end Octets

namespace Text

theorem toLower_of_gt {c : Char} (h : 0x5a < c.toNat) : c.toLower = c := by
  unfold Char.toLower
  rw [dif_neg]
  exact fun hcapital => absurd (UInt32.le_iff_toNat_le.1 hcapital.2) (Nat.not_le.2 h)

/-- Only the dot becomes a dot. -/
theorem toLower_eq_dot {c : Char} : c.toLower = '.' ↔ c = '.' := by
  by_cases h : c.toNat ≤ 0x5a
  · have key : ∀ n : Fin 0x5b, (Char.ofNat n).toLower = '.' ↔ Char.ofNat n = '.' := by
      decide +kernel
    simpa using key ⟨c.toNat, Nat.lt_succ_of_le h⟩
  · rw [toLower_of_gt (Nat.not_le.1 h)]

/-- A text is cut at the same places after a change of characters that keeps the separators. -/
theorem splitAtChar_map {separator : Char} {f : Char → Char}
    (hf : ∀ c, f c = separator ↔ c = separator) (cs : List Char) :
    splitAtChar separator (cs.map f) = (splitAtChar separator cs).map (List.map f) := by
  induction cs with
  | nil => rfl
  | cons c cs ih =>
    by_cases hc : c = separator
    · rw [List.map_cons, (hf c).2 hc, splitAtChar_cons_self, hc, splitAtChar_cons_self, ih]
      rfl
    · cases hcs : splitAtChar separator cs with
      | nil => exact absurd hcs (splitWhere_ne_nil _ cs)
      | cons piece pieces =>
        rw [hcs, List.map_cons] at ih
        rw [List.map_cons, splitAtChar_cons_of_ne (fun h => hc ((hf c).1 h)) ih,
          splitAtChar_cons_of_ne hc hcs]
        rfl

theorem joinWith_map {separator : Char} {f : Char → Char} (hf : f separator = separator)
    (pieces : List (List Char)) :
    (joinWith separator pieces).map f = joinWith separator (pieces.map (List.map f)) := by
  induction pieces with
  | nil => rfl
  | cons piece pieces ih =>
    cases pieces with
    | nil => rfl
    | cons next pieces =>
      rw [joinWith_cons_cons, List.map_append, List.map_cons, hf, ih]
      rfl

end Text

/-! ## Labels -/

namespace Label

open Octets (foldOctet foldCase)

/-- Beyond ASCII no octet stands for a letter. -/
theorem gt_of_mem_utf8EncodeChar {c : Char} (h : 0x7f < c.toNat) :
    ∀ octet ∈ String.utf8EncodeChar c, 0x7f < octet.toNat := by
  have hascii : ¬ c.val.toNat ≤ 127 := Nat.not_le.2 h
  intro octet hmem
  simp only [String.utf8EncodeChar, if_neg hascii] at hmem
  split at hmem
  · simp only [List.mem_cons, List.not_mem_nil, or_false] at hmem
    rcases hmem with rfl | rfl <;> rw [UInt8.toNat_ofNat'] <;> omega
  · split at hmem
    · simp only [List.mem_cons, List.not_mem_nil, or_false] at hmem
      rcases hmem with rfl | rfl | rfl <;> rw [UInt8.toNat_ofNat'] <;> omega
    · simp only [List.mem_cons, List.not_mem_nil, or_false] at hmem
      rcases hmem with rfl | rfl | rfl | rfl <;> rw [UInt8.toNat_ofNat'] <;> omega

/-- The encoding of a character in small letters. -/
theorem utf8EncodeChar_toLower (c : Char) :
    String.utf8EncodeChar c.toLower = foldCase (String.utf8EncodeChar c) := by
  by_cases h : c.toNat ≤ 0x7f
  · have key : ∀ n : Fin 0x80, String.utf8EncodeChar (Char.ofNat n).toLower =
        foldCase (String.utf8EncodeChar (Char.ofNat n)) := by decide +kernel
    simpa using key ⟨c.toNat, Nat.lt_succ_of_le h⟩
  · have hhigh : 0x7f < c.toNat := Nat.not_le.1 h
    have hfold : ∀ octet ∈ String.utf8EncodeChar c, foldOctet octet = octet := fun octet hmem =>
      Octets.foldOctet_of_gt (Nat.lt_trans (by decide) (gt_of_mem_utf8EncodeChar hhigh octet hmem))
    rw [Text.toLower_of_gt (Nat.lt_trans (by decide) hhigh), foldCase, List.map_congr_left hfold,
      List.map_id']

theorem utf8_map_toLower (cs : List Char) : utf8 (cs.map Char.toLower) = foldCase (utf8 cs) := by
  induction cs with
  | nil => rfl
  | cons c cs ih =>
    unfold utf8 at ih ⊢
    rw [List.map_cons, List.flatMap_cons, List.flatMap_cons, utf8EncodeChar_toLower, ih,
      Octets.foldCase_append]

theorem foldOctet_eq_backslash {octet : UInt8} :
    foldOctet octet = backslash ↔ octet = backslash := by
  have key : ∀ n : Fin 256,
      foldOctet (UInt8.ofNat n) = backslash ↔ UInt8.ofNat n = backslash := by decide +kernel
  simpa using key ⟨octet.toNat, octet.toNat_lt⟩

theorem digit?_foldOctet (octet : UInt8) : digit? (foldOctet octet) = digit? octet := by
  have key : ∀ n : Fin 256, digit? (foldOctet (UInt8.ofNat n)) = digit? (UInt8.ofNat n) := by
    decide +kernel
  simpa using key ⟨octet.toNat, octet.toNat_lt⟩

theorem decimalOctet?_foldOctet (first second third : UInt8) :
    decimalOctet? (foldOctet first) (foldOctet second) (foldOctet third) =
      decimalOctet? first second third := by
  simp only [decimalOctet?, digit?_foldOctet]

theorem foldOctet_backslash : foldOctet backslash = backslash := by decide

/-- Without three digits that denote an octet, a backslash only marks what comes next. -/
theorem unescape_of_none {first second third : UInt8} (rest : Octets)
    (h : decimalOctet? first second third = none) :
    unescape (backslash :: first :: second :: third :: rest) =
      first :: unescape (second :: third :: rest) := by
  rw [unescape.eq_def]
  simp [h]

theorem unescape_of_short {first : UInt8} {rest : Octets} (h : rest.length < 2) :
    unescape (backslash :: first :: rest) = first :: unescape rest := by
  match rest, h with
  | [], _ => rfl
  | [_], _ => rfl

/-- **The case of letters does not change what the escapes of a text mean:** by induction along the
reading of one text, with which the reading of the other keeps step. -/
theorem foldCase_unescape (octets : Octets) :
    foldCase (unescape (foldCase octets)) = foldCase (unescape octets) := by
  induction octets using unescape.induct with
  | case1 => rfl
  | case2 => rfl
  | case3 first second third rest value hvalue ih =>
    have hvalue' : decimalOctet? (foldOctet first) (foldOctet second) (foldOctet third) =
        some value := by
      rw [decimalOctet?_foldOctet, hvalue]
    simp only [Octets.foldCase_cons, foldOctet_backslash]
    rw [unescape_decimal _ hvalue', unescape_decimal rest hvalue, Octets.foldCase_cons,
      Octets.foldCase_cons, ih]
  | case4 first second third rest hvalue ih =>
    have hvalue' : decimalOctet? (foldOctet first) (foldOctet second) (foldOctet third) =
        none := by
      rw [decimalOctet?_foldOctet, hvalue]
    simp only [Octets.foldCase_cons, foldOctet_backslash] at ih ⊢
    rw [unescape_of_none _ hvalue', unescape_of_none rest hvalue, Octets.foldCase_cons,
      Octets.foldCase_cons, ih, Octets.foldOctet_foldOctet]
  | case5 first rest hshort ih =>
    have hlength : rest.length < 2 := by
      rcases rest with _ | ⟨second, _ | ⟨third, rest⟩⟩
      · exact Nat.zero_lt_two
      · exact Nat.one_lt_two
      · exact absurd rfl (hshort second third rest)
    have hlength' : (foldCase rest).length < 2 := by
      rw [Octets.length_foldCase]
      exact hlength
    simp only [Octets.foldCase_cons, foldOctet_backslash]
    rw [unescape_of_short hlength', unescape_of_short hlength, Octets.foldCase_cons,
      Octets.foldCase_cons, ih, Octets.foldOctet_foldOctet]
  | case6 octet rest hne ih =>
    have hne' : foldOctet octet ≠ backslash := fun h => hne (foldOctet_eq_backslash.1 h)
    rw [Octets.foldCase_cons, unescape_cons_of_ne hne', unescape_cons_of_ne hne,
      Octets.foldCase_cons, Octets.foldCase_cons, ih, Octets.foldOctet_foldOctet]

theorem foldCase_octetsOfText (cs : List Char) :
    foldCase (octetsOfText (cs.map Char.toLower)) = foldCase (octetsOfText cs) := by
  rw [octetsOfText, utf8_map_toLower, foldCase_unescape, octetsOfText]

theorem escapeOctet_foldOctet (octet : UInt8) :
    escapeOctet (foldOctet octet) = (escapeOctet octet).map Char.toLower := by
  have key : ∀ n : Fin 256, escapeOctet (foldOctet (UInt8.ofNat n)) =
      (escapeOctet (UInt8.ofNat n)).map Char.toLower := by decide +kernel
  simpa using key ⟨octet.toNat, octet.toNat_lt⟩

/-- The text of a label in small letters is that of its octets in small letters. -/
theorem escape_foldCase (octets : Octets) :
    escape (foldCase octets) = (escape octets).map Char.toLower := by
  induction octets with
  | nil => rfl
  | cons octet octets ih =>
    unfold escape at ih ⊢
    rw [Octets.foldCase_cons, List.flatMap_cons, ih, escapeOctet_foldOctet, List.flatMap_cons,
      List.map_append]

end Label

/-! ## Names -/

namespace Name

open Octets (foldOctet foldCase)

variable {name name' : Name} {raw : List Octets}

theorem dropFinalDot_map_toLower (cs : List Char) :
    dropFinalDot (cs.map Char.toLower) = (dropFinalDot cs).map Char.toLower := by
  have hlast : (cs.map Char.toLower).getLast? = some '.' ↔ cs.getLast? = some '.' := by
    rw [List.getLast?_map, Option.map_eq_some_iff]
    simp [Text.toLower_eq_dot]
  by_cases h : cs.getLast? = some '.'
  · rw [dropFinalDot, if_pos (hlast.2 h), dropFinalDot, if_pos h, List.map_dropLast]
  · rw [dropFinalDot, if_neg fun h' => h (hlast.1 h'), dropFinalDot, if_neg h]

/-- The labels of a normalized name are those of the name, in small letters. -/
theorem labels_normalized (name : Name) :
    name.normalized.labels = name.labels.map (List.map Char.toLower) := by
  have hempty : ((!·.isEmpty) ∘ List.map Char.toLower) =
      fun piece : List Char => !piece.isEmpty := by
    funext piece
    simp
  rw [labels_eq_filter_dropFinalDot name, labels, normalized, String.toList_ofList,
    Text.splitAtChar_map fun c => Text.toLower_eq_dot, List.filter_map, hempty]

theorem map_foldCase_rawLabels_normalized (name : Name) :
    name.normalized.rawLabels.map foldCase = name.rawLabels.map foldCase := by
  rw [rawLabels, labels_normalized, rawLabels, List.map_map, List.map_map, List.map_map]
  exact List.map_congr_left fun label _ => Label.foldCase_octetsOfText label

theorem map_length_rawLabels_normalized (name : Name) :
    name.normalized.rawLabels.map List.length = name.rawLabels.map List.length := by
  have hlengths := congrArg (List.map List.length) (map_foldCase_rawLabels_normalized name)
  simpa [List.map_map, Function.comp_def] using hlengths

/-- The lengths of labels are no letters. -/
theorem foldCase_encodeLabels (h : ∀ label ∈ raw, label.length ≤ 63) :
    foldCase (encodeLabels raw) = encodeLabels (raw.map foldCase) := by
  induction raw with
  | nil => rfl
  | cons label raw ih =>
    obtain ⟨hlabel, hraw⟩ := List.forall_mem_cons.1 h
    have hlength : foldOctet (UInt8.ofNat label.length) = UInt8.ofNat label.length := by
      refine Octets.foldOctet_of_lt ?_
      rw [UInt8.toNat_ofNat']
      omega
    rw [List.map_cons, encodeLabels_cons, encodeLabels_cons, encodeLabel, encodeLabel,
      Octets.foldCase_append, Octets.foldCase_cons, Octets.length_foldCase, hlength, ih hraw]

namespace IsValid

theorem length_label_normalized_le (h : name.IsValid) :
    ∀ label ∈ name.normalized.rawLabels, label.length ≤ 63 := by
  intro label hmem
  have hlength : label.length ∈ name.rawLabels.map List.length := by
    rw [← map_length_rawLabels_normalized]
    exact List.mem_map_of_mem hmem
  obtain ⟨label', hmem', heq⟩ := List.mem_map.1 hlength
  rw [← heq]
  exact h.length_label_le label' hmem'

/-- **Normalizing a name keeps its encoding,** up to the case of letters. -/
theorem foldCase_encode_normalized (h : name.IsValid) :
    foldCase name.normalized.encode = foldCase name.encode := by
  rw [encode, foldCase_encodeLabels h.length_label_normalized_le,
    map_foldCase_rawLabels_normalized, ← foldCase_encodeLabels h.length_label_le, encode]

theorem dropFinalDot_dropFinalDot (h : name.IsValid) :
    dropFinalDot (dropFinalDot name.text.toList) = dropFinalDot name.text.toList := by
  rcases h.spelled with hnil | hpieces
  · rw [hnil]
    rfl
  · exact dropFinalDot_eq_self hpieces

theorem dropFinalDot_normalized (h : name.IsValid) :
    dropFinalDot name.normalized.text.toList =
      (dropFinalDot name.text.toList).map Char.toLower := by
  rw [normalized, String.toList_ofList, dropFinalDot_map_toLower, h.dropFinalDot_dropFinalDot]

/-- A normalized name is its own normalized form. -/
theorem normalized_normalized (h : name.IsValid) :
    name.normalized.normalized = name.normalized := by
  have htwice : Char.toLower ∘ Char.toLower = Char.toLower :=
    funext Char.toLower_toLower_eq_toLower
  rw [Name.normalized, h.dropFinalDot_normalized, List.map_map, htwice, ← Name.normalized]

/-- **The normalized form of a valid name is valid.** -/
theorem normalized (h : name.IsValid) : name.normalized.IsValid where
  spelled := by
    rw [h.dropFinalDot_normalized, Text.splitAtChar_map fun c => Text.toLower_eq_dot]
    refine h.spelled.imp (fun hnil => ?_) fun hpieces piece hmem => ?_
    · rw [hnil]
      rfl
    · obtain ⟨piece', hmem', rfl⟩ := List.mem_map.1 hmem
      simpa using hpieces piece' hmem'
  length_label_le := h.length_label_normalized_le
  encodedLength_le := by
    have hlength := congrArg List.length h.foldCase_encode_normalized
    rw [Octets.length_foldCase, Octets.length_foldCase, encode, encode, length_encodeLabels,
      length_encodeLabels] at hlength
    rw [encodedLength, hlength]
    exact h.encodedLength_le

end IsValid

/-! ## Names that were read -/

theorem isRead_iff : name.IsRead ↔
    ∃ raw, (∀ label ∈ raw, 1 ≤ label.length ∧ label.length ≤ 63) ∧
      labelsLength raw ≤ maxNameLength ∧ name = ofRawLabels raw := by
  constructor
  · rintro ⟨reader, after, hdecode⟩
    obtain ⟨raw, resume, hexpands, hlength, rfl, -⟩ := decode_eq_ok_iff.1 hdecode
    exact ⟨raw, hexpands.length_mem, hlength, rfl⟩
  · rintro ⟨raw, hraw, hlength, rfl⟩
    have hvalid := isValid_ofRawLabels hraw hlength
    have hdecode := hvalid.decode_encode
    rw [hvalid.canonical_eq, rawLabels_ofRawLabels (ne_nil_of_mem_raw hraw)] at hdecode
    exact ⟨_, _, hdecode⟩

/-- The text of labels in small letters is that of their octets in small letters. -/
theorem normalized_ofRawLabels (hraw : ∀ label ∈ raw, 1 ≤ label.length ∧ label.length ≤ 63) :
    (ofRawLabels raw).normalized = ofRawLabels (raw.map foldCase) := by
  rw [normalized, dropFinalDot_ofRawLabels hraw, ofRawLabels, String.toList_ofList,
    Text.joinWith_map (Text.toLower_eq_dot.2 rfl), ofRawLabels, List.map_map, List.map_map]
  simp only [Function.comp_def, Label.escape_foldCase]

namespace IsRead

theorem isValid (h : name.IsRead) : name.IsValid := by
  obtain ⟨reader, after, hdecode⟩ := h
  exact isValid_of_decode hdecode

/-- There is only one way to read an encoding. -/
theorem eq_of_encode_eq (h : name.IsRead) (h' : name'.IsRead) (heq : name.encode = name'.encode) :
    name = name' := by
  have hdecode := h.isValid.decode_encode
  rw [heq, h'.isValid.decode_encode] at hdecode
  obtain ⟨_, _, hread⟩ := h
  obtain ⟨_, _, hread'⟩ := h'
  rw [← canonical_of_decode hread, ← canonical_of_decode hread']
  exact (EStateM.Result.ok.inj hdecode).1.symm

/-- **The encoding of a name that was read, in small letters, is that of its normalized form,**
which could have been read as well. -/
theorem encode_normalized (h : name.IsRead) :
    name.normalized.IsRead ∧ name.normalized.encode = foldCase name.encode := by
  obtain ⟨raw, hraw, hlength, rfl⟩ := isRead_iff.1 h
  have hfold := foldCase_encodeLabels fun label hmem => (hraw label hmem).2
  have hraw' : ∀ label ∈ raw.map foldCase, 1 ≤ label.length ∧ label.length ≤ 63 := by
    intro label hmem
    obtain ⟨label', hmem', rfl⟩ := List.mem_map.1 hmem
    rw [Octets.length_foldCase]
    exact hraw label' hmem'
  rw [normalized_ofRawLabels hraw]
  constructor
  · refine isRead_iff.2 ⟨_, hraw', ?_, rfl⟩
    rw [← length_encodeLabels, ← hfold, Octets.length_foldCase, length_encodeLabels]
    exact hlength
  · rw [encode, rawLabels_ofRawLabels (ne_nil_of_mem_raw hraw'), encode,
      rawLabels_ofRawLabels (ne_nil_of_mem_raw hraw), hfold]

/-- **Names that were read have the same normalized form** exactly if they are the same up to the
case of letters. -/
theorem normalized_eq_iff (h : name.IsRead) (h' : name'.IsRead) :
    name.normalized = name'.normalized ↔ foldCase name.encode = foldCase name'.encode := by
  obtain ⟨hread, hencode⟩ := h.encode_normalized
  obtain ⟨hread', hencode'⟩ := h'.encode_normalized
  rw [← hencode, ← hencode']
  constructor
  · intro heq
    rw [heq]
  · exact hread.eq_of_encode_eq hread'

end IsRead

end Name

/-- The owners of the records of a message were read. -/
theorem Message.isRead_of_mem_records {octets : Octets} {message : Message} {record : Record}
    (h : decode octets = .ok message) (hmem : record ∈ message.records) : record.name.IsRead := by
  obtain ⟨after, hread⟩ := read_of_decode h
  exact forall_mem_records_of_read (fun _ _ _ => Record.isRead_of_decode) hread record hmem
    record.name List.mem_cons_self

namespace Name

open Octets (foldCase)

/-- **Normalizing names is what the domain name system means by sameness.**  Names that were parsed
and have the same normalized form have the same encoding, up to the case of letters.  The normalized
form of a name that was parsed can be parsed as well, is its own normalized form, and has the same
encoding, up to case.  Names that were read from messages have the same normalized form if they have
the same encoding, up to case; so a cache that normalizes names files records of messages under the
same key exactly if their owners are the same up to case and their types are the same. -/
theorem normalized_follows_wire :
    (∀ text text' name name', parse text = .ok name → parse text' = .ok name' →
      name.normalized = name'.normalized → foldCase name.encode = foldCase name'.encode) ∧
    (∀ text name, parse text = .ok name →
      parse name.normalized.text = .ok name.normalized ∧
      name.normalized.normalized = name.normalized ∧
      foldCase name.normalized.encode = foldCase name.encode) ∧
    (∀ name name' : Name, name.IsRead → name'.IsRead →
      foldCase name.encode = foldCase name'.encode → name.normalized = name'.normalized) ∧
    ∀ (cache : Cache) octets octets' message message',
      cache.normalizeNames = true → Message.decode octets = .ok message →
      Message.decode octets' = .ok message' →
      ∀ record ∈ message.records, ∀ record' ∈ message'.records,
        cache.key record.query = cache.key record'.query ↔
          foldCase record.name.encode = foldCase record'.name.encode ∧
            record.type = record'.type := by
  refine ⟨?_, ?_, fun name name' h h' => (h.normalized_eq_iff h').2, ?_⟩
  · intro text text' name name' hparse hparse' heq
    rw [← (isValid_of_parse hparse).foldCase_encode_normalized, heq,
      (isValid_of_parse hparse').foldCase_encode_normalized]
  · intro text name hparse
    have hvalid := isValid_of_parse hparse
    exact ⟨hvalid.normalized.parse_text, hvalid.normalized_normalized,
      hvalid.foldCase_encode_normalized⟩
  · intro cache octets octets' message message' hnormalize hdecode hdecode' record hmem record'
      hmem'
    have hread := Message.isRead_of_mem_records hdecode hmem
    have hread' := Message.isRead_of_mem_records hdecode' hmem'
    rw [← hread.normalized_eq_iff hread', Cache.key, if_pos hnormalize, Cache.key,
      if_pos hnormalize]
    simp [Query.normalized, Record.query]

/-- Two spellings of a name with an escaped capital, and two names that were read. -/
theorem normalized_follows_wire_capitals :
    let typed : Name := ⟨"Ex\\065mple."⟩
    let typed' : Name := ⟨"eX\\065MPLE"⟩
    let found : Name := ⟨"A\\046"⟩
    let found' : Name := ⟨"a\\046"⟩
    typed.encode ≠ typed'.encode ∧ foldCase typed.encode = foldCase typed'.encode ∧
      found.encode = [2, 0x41, 0x2e, 0] ∧ found'.encode = [2, 0x61, 0x2e, 0] ∧
      found.normalized = found'.normalized := by
  intro typed typed' found found'
  have hparse : parse typed.text = .ok typed := eq_ok_of_toOption (by decide +kernel)
  have hparse' : parse typed'.text = .ok typed' := eq_ok_of_toOption (by decide +kernel)
  have hread : found.IsRead :=
    isRead_iff.2 ⟨[[0x41, 0x2e]], by decide, by decide, by decide +kernel⟩
  have hread' : found'.IsRead :=
    isRead_iff.2 ⟨[[0x61, 0x2e]], by decide, by decide, by decide +kernel⟩
  have hsame := normalized_follows_wire.1 _ _ typed typed' hparse hparse' (by decide +kernel)
  refine ⟨by decide +kernel, hsame, by decide +kernel, by decide +kernel, ?_⟩
  exact normalized_follows_wire.2.2.1 found found' hread hread' (by decide +kernel)

end Name

end IterativeDns
