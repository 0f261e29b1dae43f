import IterativeDns.Proofs.Decoding
import IterativeDns.Proofs.Decompression

/-!
# Reading what was written

A decoder reads a value from some octets if it does so wherever they stand in a message, and moves
just past them.  Such facts can be put together in the way in which decoders are.

* `Decoder.Reads` — a decoder reads a value from octets, with one rule for each way in which
  decoders are made (`Reads.pure`, `Reads.bind`, `Reads.times`) and for each kind of number.
* `Name.reads_encode` — **every valid name is read from its encoding,** in its canonical spelling.
-/

namespace IterativeDns

/-! ## Octets that lie ahead -/

namespace Reader

/-- The octets from the position on. -/
def rest (reader : Reader) : Octets := reader.buffer.toList.drop reader.position

/-- The reader after some octets more. -/
def advance (reader : Reader) (count : Nat) : Reader :=
  { reader with position := reader.position + count }

theorem advance_advance (reader : Reader) (first second : Nat) :
    (reader.advance first).advance second = reader.advance (first + second) := by
  simp [advance, Nat.add_assoc]

theorem rest_advance (reader : Reader) (count : Nat) :
    (reader.advance count).rest = reader.rest.drop count := by
  rw [rest, rest, advance, List.drop_drop]

theorem length_rest (reader : Reader) : reader.rest.length = reader.remaining := by
  simp [rest, remaining, length]

theorem ahead_eq_take (reader : Reader) (count : Nat) :
    reader.ahead count = reader.rest.take count := by
  rw [ahead, rest, Array.toList_extract, List.extract_eq_take_drop, Nat.add_sub_cancel_left]

variable {reader : Reader} {octets octets' : Octets}

/-- What comes after octets that lie ahead lies ahead when they have been read. -/
theorem prefix_rest_advance (h : octets ++ octets' <+: reader.rest) :
    octets' <+: (reader.advance octets.length).rest := by
  obtain ⟨after, hrest⟩ := h
  rw [rest_advance, ← hrest, List.append_assoc, List.drop_left]
  exact List.prefix_append octets' after

theorem length_le_remaining (h : octets <+: reader.rest) : octets.length ≤ reader.remaining := by
  rw [← length_rest]
  exact h.length_le

theorem ahead_of_prefix (h : octets <+: reader.rest) : reader.ahead octets.length = octets := by
  rw [ahead_eq_take]
  exact (List.prefix_iff_eq_take.1 h).symm

theorem getElem?_position (reader : Reader) (index : Nat) :
    reader.buffer[reader.position + index]? = reader.rest[index]? := by
  rw [rest, List.getElem?_drop, Array.getElem?_toList]

end Reader

/-! ## Decoders that read values -/

namespace Decoder

variable {α β : Type} {step : Decoder α} {rest : α → Decoder β} {octets octets' : Octets}
  {value : α} {result : β}

/-- Wherever the octets lie ahead, the decoder reads the value from them and moves past them. -/
def Reads (step : Decoder α) (octets : Octets) (value : α) : Prop :=
  ∀ reader : Reader, octets <+: reader.rest → step reader = .ok value (reader.advance octets.length)

namespace Reads

theorem pure (value : α) : Reads (Pure.pure value) [] value := fun _ _ => rfl

/-- A first part is read, and then the rest. -/
theorem bind (h : step.Reads octets value) (hrest : (rest value).Reads octets' result) :
    (step >>= rest).Reads (octets ++ octets') result := by
  intro reader hahead
  refine bind_eq_ok.2 ⟨value, _, h reader ((List.prefix_append _ _).trans hahead), ?_⟩
  rw [List.length_append, ← Reader.advance_advance]
  exact hrest _ (Reader.prefix_rest_advance hahead)

/-- The value at the end is a function of the value that was read. -/
theorem map (h : step.Reads octets value) (f : α → β) :
    (do return f (← step) : Decoder β).Reads octets (f value) := by
  show Reads (step >>= fun value => Pure.pure (f value)) octets (f value)
  rw [← List.append_nil octets]
  exact h.bind (pure (f value))

theorem take (octets : Octets) : (Decoder.take octets.length).Reads octets octets := by
  intro reader hahead
  rw [take_of_le (Reader.length_le_remaining hahead), Reader.ahead_of_prefix hahead]
  rfl

theorem takePadded (octets : Octets) : (Decoder.takePadded octets.length).Reads octets octets := by
  intro reader hahead
  have hmin := Nat.min_eq_left (Reader.length_le_remaining hahead)
  simp only [Decoder.takePadded, hmin, Nat.sub_self, List.replicate_zero, List.append_nil,
    Reader.ahead_of_prefix hahead]
  rfl

theorem uint16 (word : UInt16) : Decoder.uint16.Reads (Octets.ofUInt16 word) word := by
  have hreads := (take (Octets.ofUInt16 word)).map fun octets => UInt16.ofNat (Octets.toNat octets)
  rw [Octets.toNat_ofUInt16, UInt16.ofNat_toNat, Octets.length_ofUInt16] at hreads
  exact hreads

theorem uint32 (word : UInt32) : Decoder.uint32.Reads (Octets.ofUInt32 word) word := by
  have hreads := (take (Octets.ofUInt32 word)).map fun octets => UInt32.ofNat (Octets.toNat octets)
  rw [Octets.toNat_ofUInt32, UInt32.ofNat_toNat, Octets.length_ofUInt32] at hreads
  exact hreads

theorem uint16Padded (word : UInt16) : Decoder.uint16Padded.Reads (Octets.ofUInt16 word) word := by
  have hreads :=
    (takePadded (Octets.ofUInt16 word)).map fun octets => UInt16.ofNat (Octets.toNat octets)
  rw [Octets.toNat_ofUInt16, UInt16.ofNat_toNat, Octets.length_ofUInt16] at hreads
  exact hreads

/-- A repetition reads the items one after the other. -/
theorem times {encode : β → Octets} {read : β → α} {items : List β}
    (h : ∀ item ∈ items, step.Reads (encode item) (read item)) :
    (Decoder.times step items.length).Reads (items.flatMap encode) (items.map read) := by
  induction items with
  | nil => exact pure []
  | cons item items ih =>
    have hitem := h item List.mem_cons_self
    have hitems := ih fun other hmem => h other (List.mem_cons_of_mem item hmem)
    rw [List.flatMap_cons]
    exact hitem.bind (hitems.map (read item :: ·))

end Reads

end Decoder

/-! ## Names -/

namespace Name

variable {reader : Reader} {raw : List Octets}

/-- A label that lies ahead stands there. -/
theorem labelAt_of_prefix {label : Octets} (hpos : 1 ≤ label.length) (hle : label.length ≤ 63)
    (h : encodeLabel label <+: reader.rest) : LabelAt reader.buffer reader.position label where
  length_eq := by
    obtain ⟨after, hrest⟩ := h
    have hfirst := reader.getElem?_position 0
    rw [← hrest, encodeLabel, List.cons_append, List.getElem?_cons_zero, Nat.add_zero] at hfirst
    rw [hfirst, Option.map_some, UInt8.toNat_ofNat', Nat.mod_eq_of_lt (by omega)]
  pos := hpos
  le := hle
  octets_eq := by
    have hahead : [UInt8.ofNat label.length] ++ label <+: reader.rest := h
    exact Reader.ahead_of_prefix (Reader.prefix_rest_advance hahead)

/-- Encoded labels that lie ahead are a name by the rules. -/
theorem expands_of_prefix (hraw : ∀ label ∈ raw, 1 ≤ label.length ∧ label.length ≤ 63)
    (h : encodeLabels raw <+: reader.rest) :
    Expands reader.buffer reader.position raw (reader.position + labelsLength raw) := by
  induction raw generalizing reader with
  | nil =>
    obtain ⟨after, hrest⟩ := h
    have hfirst := reader.getElem?_position 0
    rw [← hrest] at hfirst
    exact .root hfirst
  | cons label raw ih =>
    rw [encodeLabels_cons] at h
    have hlabel := hraw label List.mem_cons_self
    have hrest := ih (fun other hmem => hraw other (List.mem_cons_of_mem label hmem))
      (Reader.prefix_rest_advance h)
    have hlength : (encodeLabel label).length = 1 + label.length := by
      rw [encodeLabel, List.length_cons, Nat.add_comm]
    rw [Reader.advance, hlength] at hrest
    have hstands := labelAt_of_prefix hlabel.1 hlabel.2 ((List.prefix_append _ _).trans h)
    have hnext : reader.position + 1 + label.length = reader.position + (1 + label.length) :=
      Nat.add_assoc _ _ _
    have hresume : reader.position + labelsLength (label :: raw) =
        reader.position + (1 + label.length) + labelsLength raw := by
      rw [labelsLength]
      omega
    rw [hresume]
    refine .label hstands ?_
    rw [hnext]
    exact hrest

/-- **Every valid name is read from its encoding,** in its canonical spelling. -/
theorem reads_encode {name : Name} (h : name.IsValid) :
    decode.Reads name.encode name.canonical := by
  intro reader hahead
  have hraw : ∀ label ∈ name.rawLabels, 1 ≤ label.length ∧ label.length ≤ 63 :=
    fun label hmem => ⟨IsValid.length_label_pos hmem, h.length_label_le label hmem⟩
  refine decode_eq_ok_iff.2 ⟨name.rawLabels, _, expands_of_prefix hraw hahead,
    h.encodedLength_le, h.canonical_eq, ?_⟩
  rw [encode, length_encodeLabels]
  rfl

/-- Every name that was read from a message is valid. -/
theorem isValid_of_decode {reader after : Reader} {name : Name}
    (h : decode reader = .ok name after) : name.IsValid := by
  obtain ⟨labels, resume, hexpands, hlength, rfl, -⟩ := decode_eq_ok_iff.1 h
  exact isValid_ofRawLabels hexpands.length_mem hlength

/-- Every name that was read from a message is spelled canonically. -/
theorem canonical_of_decode {reader after : Reader} {name : Name}
    (h : decode reader = .ok name after) : name.canonical = name := by
  have hvalid := isValid_of_decode h
  obtain ⟨labels, resume, hexpands, -, rfl, -⟩ := decode_eq_ok_iff.1 h
  have hne : ∀ label ∈ labels, label ≠ [] := fun label hmem =>
    List.length_pos_iff.1 (hexpands.length_mem label hmem).1
  rw [hvalid.canonical_eq, rawLabels_ofRawLabels hne]

end Name

end IterativeDns
