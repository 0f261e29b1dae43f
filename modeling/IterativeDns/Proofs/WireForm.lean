import IterativeDns.Proofs.Records

/-!
# Names that are typed and names that are read

A name comes from a text that someone typed, or from a message.  This file shows that it makes no
difference: both kinds of names have the same encodings, which are those of any labels that are not
too long, and each way leads back to the other.

* `Name.WrittenOut` — octets are given labels, one after the other and without any pointer;
  `Name.writtenOut_iff` says that these are the octets in which labels are encoded.
* `Name.printable_ofRawLabels` — labels are written in printable characters, whatever octets they
  hold.
* `Name.IsValid.decode_encode` — a valid name is read from its encoding, with the same labels.
* `Name.text_and_wire_agree` — **what is typed can be read, and what is read can be typed.**
-/

namespace IterativeDns

/-! ## Printable characters -/

namespace Text

theorem joinWith_cons_cons (separator : Char) (piece next : List Char) (pieces : List (List Char)) :
    joinWith separator (piece :: next :: pieces) =
      piece ++ separator :: joinWith separator (next :: pieces) := rfl

theorem mem_of_mem_joinWith {separator c : Char} {pieces : List (List Char)}
    (h : c ∈ joinWith separator pieces) : c = separator ∨ ∃ piece ∈ pieces, c ∈ piece := by
  induction pieces with
  | nil => exact absurd h List.not_mem_nil
  | cons piece pieces ih =>
    cases pieces with
    | nil => exact .inr ⟨piece, List.mem_cons_self, h⟩
    | cons next pieces =>
      rw [joinWith_cons_cons, List.mem_append, List.mem_cons] at h
      rcases h with h | h | h
      · exact .inr ⟨piece, List.mem_cons_self, h⟩
      · exact .inl h
      · obtain hc | ⟨other, hother, hc⟩ := ih h
        · exact .inl hc
        · exact .inr ⟨other, List.mem_cons_of_mem piece hother, hc⟩

end Text

namespace Label

theorem printable_escapeOctet (octet : UInt8) :
    ∀ c ∈ escapeOctet octet, 0x21 ≤ c.toNat ∧ c.toNat ≤ 0x7e := by
  have key : ∀ n : Fin 256, (escapeOctet (UInt8.ofNat n)).all
      (fun c => 0x21 ≤ c.toNat && c.toNat ≤ 0x7e) = true := by decide +kernel
  simpa using key ⟨octet.toNat, octet.toNat_lt⟩

theorem printable_escape {octets : Octets} :
    ∀ c ∈ escape octets, 0x21 ≤ c.toNat ∧ c.toNat ≤ 0x7e := by
  intro c hc
  obtain ⟨octet, -, hc⟩ := List.mem_flatMap.1 hc
  exact printable_escapeOctet octet c hc

end Label

namespace Name

variable {raw : List Octets} {octets : Octets} {name : Name}

/-- **Labels are written in printable characters,** whatever octets they hold. -/
theorem printable_ofRawLabels :
    ∀ c ∈ (ofRawLabels raw).text.toList, 0x21 ≤ c.toNat ∧ c.toNat ≤ 0x7e := by
  intro c hc
  rw [ofRawLabels, String.toList_ofList] at hc
  obtain rfl | ⟨piece, hpiece, hc⟩ := Text.mem_of_mem_joinWith hc
  · decide
  · obtain ⟨label, -, rfl⟩ := List.mem_map.1 hpiece
    exact Label.printable_escape c hc

/-! ## Labels written out -/

/-- Octets are labels, one after the other: each of them comes after its length, from 1 to 63, and
the only length that is zero ends them. -/
inductive WrittenOut : List Octets → Octets → Prop where
  /-- There are no more labels. -/
  | root : WrittenOut [] [0]
  /-- A label comes first. -/
  | label {length : UInt8} {label octets : Octets} {labels : List Octets}
      (hlength : length.toNat = label.length) (hpos : 1 ≤ label.length) (hle : label.length ≤ 63)
      (hrest : WrittenOut labels octets) : WrittenOut (label :: labels) (length :: label ++ octets)

/-- **Labels are encoded by writing them out,** and in no other way. -/
theorem writtenOut_iff :
    WrittenOut raw octets ↔
      octets = encodeLabels raw ∧ ∀ label ∈ raw, 1 ≤ label.length ∧ label.length ≤ 63 := by
  constructor
  · intro h
    induction h with
    | root => exact ⟨rfl, by simp⟩
    | @label length label octets labels hlength hpos hle _ ih =>
      obtain ⟨rfl, hlabels⟩ := ih
      have hfirst : UInt8.ofNat label.length = length := by
        rw [← hlength, UInt8.ofNat_toNat]
      refine ⟨?_, List.forall_mem_cons.2 ⟨⟨hpos, hle⟩, hlabels⟩⟩
      rw [encodeLabels_cons, encodeLabel, hfirst]
  · rintro ⟨rfl, hraw⟩
    induction raw with
    | nil => exact .root
    | cons label raw ih =>
      obtain ⟨⟨hpos, hle⟩, hraw⟩ := List.forall_mem_cons.1 hraw
      have hlength : (UInt8.ofNat label.length).toNat = label.length := by
        rw [UInt8.toNat_ofNat', Nat.mod_eq_of_lt (by omega)]
      rw [encodeLabels_cons]
      exact .label hlength hpos hle (ih hraw)

/-! ## Back and forth -/

namespace IsValid

theorem length_mem (h : name.IsValid) :
    ∀ label ∈ name.rawLabels, 1 ≤ label.length ∧ label.length ≤ 63 :=
  fun label hmem => ⟨length_label_pos hmem, h.length_label_le label hmem⟩

theorem writtenOut (h : name.IsValid) : WrittenOut name.rawLabels name.encode :=
  writtenOut_iff.2 ⟨rfl, h.length_mem⟩

theorem rawLabels_canonical (h : name.IsValid) : name.canonical.rawLabels = name.rawLabels := by
  rw [h.canonical_eq]
  exact rawLabels_ofRawLabels (ne_nil_of_mem_raw h.length_mem)

theorem length_labels_canonical (h : name.IsValid) :
    name.canonical.labels.length = name.labels.length := by
  have hlabels := congrArg List.length h.rawLabels_canonical
  rwa [rawLabels, rawLabels, List.length_map, List.length_map] at hlabels

theorem encode_canonical (h : name.IsValid) : name.canonical.encode = name.encode := by
  rw [encode, h.rawLabels_canonical, encode]

/-- **A valid name is read from its encoding,** to the last octet and with the same labels. -/
theorem decode_encode (h : name.IsValid) :
    decode (.ofOctets name.encode) =
      .ok name.canonical ⟨name.encode.toArray, name.encode.length⟩ := by
  rw [reads_encode h (.ofOctets name.encode) (List.prefix_refl name.encode)]
  simp [Reader.advance, Reader.ofOctets]

/-- A valid name can be typed in the way in which it is shown: the root is shown as a dot. -/
theorem parse_shown (h : name.IsValid) :
    ∃ typed, parse name.shown = .ok typed ∧ typed.encode = name.encode := by
  unfold shown
  by_cases hroot : name.isRoot = true
  · have hdot : parse "." = .ok ⟨"."⟩ := eq_ok_of_toOption (by decide +kernel)
    have hlabels : name.labels = [] := List.isEmpty_iff.1 hroot
    have hencode : name.encode = [0] := by
      rw [encode, rawLabels, hlabels]
      rfl
    rw [if_pos hroot, hencode]
    exact ⟨_, hdot, by decide +kernel⟩
  · rw [if_neg hroot]
    exact ⟨name, h.parse_text, rfl⟩

end IsValid

/-- Labels that are written out in few enough octets are those of a name. -/
theorem exists_isValid_of_writtenOut (h : WrittenOut raw octets) (hlength : octets.length ≤ 255) :
    ∃ name : Name, name.IsValid ∧ name.encode = octets := by
  obtain ⟨rfl, hraw⟩ := writtenOut_iff.1 h
  rw [length_encodeLabels] at hlength
  refine ⟨ofRawLabels raw, isValid_ofRawLabels hraw hlength, ?_⟩
  rw [encode, rawLabels_ofRawLabels (ne_nil_of_mem_raw hraw)]

/-- **What is typed can be read, and what is read can be typed.**  A name that was parsed is encoded
in at most 255 octets, which are its labels written out, and from these octets, to the last of them,
a name with as many labels and the same encoding is read.  A name that was read from a message,
however it was compressed there, is spelled in printable characters, has the very labels that stand
there, is encoded by writing them out, and can be typed as it is spelled and as it is shown.  So the
encodings of names that were parsed are those of names that were read, and these are all labels
written out in at most 255 octets. -/
theorem text_and_wire_agree :
    (∀ text name, parse text = .ok name →
      name.encode.length ≤ 255 ∧ WrittenOut (name.labels.map Label.octetsOfText) name.encode ∧
      ∃ found, decode (.ofOctets name.encode) =
          .ok found ⟨name.encode.toArray, name.encode.length⟩ ∧
        found.labels.length = name.labels.length ∧ found.encode = name.encode) ∧
    (∀ reader name after, decode reader = .ok name after →
      ∃ raw, Expands reader.buffer reader.position raw after.position ∧
        (∀ c ∈ name.text.toList, 0x21 ≤ c.toNat ∧ c.toNat ≤ 0x7e) ∧
        name.labels.length = raw.length ∧ name.labels.map Label.octetsOfText = raw ∧
        WrittenOut raw name.encode ∧ parse name.text = .ok name ∧
        ∃ typed, parse name.shown = .ok typed ∧ typed.encode = name.encode) ∧
    ∀ octets,
      ((∃ text name, parse text = .ok name ∧ name.encode = octets) ↔
        ∃ reader name after, decode reader = .ok name after ∧ name.encode = octets) ∧
      ((∃ text name, parse text = .ok name ∧ name.encode = octets) ↔
        octets.length ≤ 255 ∧ ∃ raw, WrittenOut raw octets) := by
  refine ⟨fun text name hparse => ?_, fun reader name after hdecode => ?_, fun octets => ⟨?_, ?_⟩⟩
  · have hvalid := isValid_of_parse hparse
    refine ⟨hvalid.length_encode_le, hvalid.writtenOut, name.canonical, hvalid.decode_encode,
      hvalid.length_labels_canonical, hvalid.encode_canonical⟩
  · have hvalid := isValid_of_decode hdecode
    obtain ⟨raw, resume, hexpands, -, rfl, rfl⟩ := decode_eq_ok_iff.1 hdecode
    have hrawLabels := rawLabels_ofRawLabels (ne_nil_of_mem_raw hexpands.length_mem)
    have hwritten := hvalid.writtenOut
    rw [hrawLabels] at hwritten
    refine ⟨raw, hexpands, printable_ofRawLabels, ?_, hrawLabels, hwritten, hvalid.parse_text,
      hvalid.parse_shown⟩
    rw [← List.length_map Label.octetsOfText]
    exact congrArg List.length hrawLabels
  · constructor
    · rintro ⟨text, name, hparse, rfl⟩
      have hvalid := isValid_of_parse hparse
      exact ⟨_, _, _, hvalid.decode_encode, hvalid.encode_canonical⟩
    · rintro ⟨reader, name, after, hdecode, rfl⟩
      exact ⟨_, name, (isValid_of_decode hdecode).parse_text, rfl⟩
  · constructor
    · rintro ⟨text, name, hparse, rfl⟩
      have hvalid := isValid_of_parse hparse
      exact ⟨hvalid.length_encode_le, _, hvalid.writtenOut⟩
    · rintro ⟨hlength, raw, hwritten⟩
      obtain ⟨name, hvalid, rfl⟩ := exists_isValid_of_writtenOut hwritten hlength
      exact ⟨_, name, hvalid.parse_text, rfl⟩

/-- An escape that is needed, one that is not, and a letter that takes two octets. -/
theorem text_and_wire_agree_cafe :
    let octets : Octets := [3, 0x78, 0x2e, 0x79, 5, 0x63, 0x61, 0x66, 0xc3, 0xa9, 0]
    ∃ typed found, parse "x\\046y.caf\\é" = .ok typed ∧ typed.encode = octets ∧
      decode (.ofOctets octets) = .ok found ⟨octets.toArray, 11⟩ ∧
      found.labels.length = 2 ∧ found.encode = octets := by
  intro octets
  let typed : Name := ⟨"x\\046y.caf\\é"⟩
  have hparse : parse typed.text = .ok typed := eq_ok_of_toOption (by decide +kernel)
  have hencode : typed.encode = octets := by decide +kernel
  have hlabels : typed.labels.length = 2 := by decide +kernel
  obtain ⟨-, -, found, hfound, hlength, hagain⟩ := text_and_wire_agree.1 _ _ hparse
  rw [hencode] at hfound hagain
  exact ⟨typed, found, hparse, hencode, hfound, hlength.trans hlabels, hagain⟩

end Name

end IterativeDns
