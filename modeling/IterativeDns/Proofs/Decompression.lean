import IterativeDns.Name.Compression
import IterativeDns.Proofs.NameText
import Mathlib.Algebra.GroupWithZero.Nat
import Mathlib.Logic.Relation

/-!
# Names in a message, by the rules

Names in a message may be compressed: the rest of a name may stand elsewhere, and a pointer leads
there, forwards or backwards, even into the middle of something else.  This file says by rules which
labels stand at an offset, and shows that reading a name follows the rules exactly.

* `Name.Expands` — the labels of the name at an offset, and where its own part ends.
* `Name.Expands.not_cyclic` — **a name that ends never comes to an offset twice,** so nothing is
  lost by giving up on an offset that was seen before.
* `Name.expand_eq_ok_iff` — reading follows the rules, as far as the labels are not too long.
* `Name.decode_follows_rules` — what comes of reading a name, in all cases.
-/

namespace IterativeDns.Decoder

variable {α β : Type} {step : Decoder α} {rest : α → Decoder β} {reader after : Reader}

theorem bind_of_eq_ok {value : α} (h : step reader = .ok value after) :
    (step >>= rest) reader = rest value after := by
  show EStateM.bind step rest reader = rest value after
  rw [EStateM.bind, h]

theorem bind_of_eq_error {fault : WireError} (h : step reader = .error fault after) :
    (step >>= rest) reader = .error fault after := by
  show EStateM.bind step rest reader = .error fault after
  rw [EStateM.bind, h]

end IterativeDns.Decoder

namespace IterativeDns.Name

variable {buffer : Array UInt8} {offset next next' resume used : Nat} {seen : List Nat}
  {labels : List Octets} {label label' : Octets}

/-! ## The rules -/

/-- A label stands at an offset: its length, from 1 to 63, and then as many octets. -/
structure LabelAt (buffer : Array UInt8) (offset : Nat) (label : Octets) : Prop where
  /-- The length comes first. -/
  length_eq : (buffer[offset]?).map UInt8.toNat = some label.length
  /-- The label is not empty. -/
  pos : 1 ≤ label.length
  /-- The label is not too long. -/
  le : label.length ≤ 63
  /-- The octets follow, and all of them lie in the message. -/
  octets_eq : (buffer.extract (offset + 1) (offset + 1 + label.length)).toList = label

/-- A pointer stands at an offset: two octets of which the top two bits are set, and the other
fourteen bits give the offset at which the name goes on. -/
def PointerAt (buffer : Array UInt8) (offset target : Nat) : Prop :=
  ∃ first second, buffer[offset]? = some first ∧ 192 ≤ first.toNat ∧
    buffer[offset + 1]? = some second ∧
    target = (first.toNat * 256 + second.toNat) % 2 ^ 14

/-- The labels of the name at an offset, and the offset after the part of it that stands there:
after the zero octet at its end, or after the first pointer if there is one. -/
inductive Expands (buffer : Array UInt8) : Nat → List Octets → Nat → Prop where
  /-- A zero octet ends the name. -/
  | root {offset : Nat} (h : buffer[offset]? = some 0) : Expands buffer offset [] (offset + 1)
  /-- The name goes on after a label. -/
  | label {offset resume : Nat} {label : Octets} {labels : List Octets}
      (h : LabelAt buffer offset label)
      (hrest : Expands buffer (offset + 1 + label.length) labels resume) :
      Expands buffer offset (label :: labels) resume
  /-- The name goes on where a pointer leads. -/
  | pointer {offset target after : Nat} {labels : List Octets} (h : PointerAt buffer offset target)
      (hrest : Expands buffer target labels after) : Expands buffer offset labels (offset + 2)

/-- The name at an offset goes on at another one. -/
def Continues (buffer : Array UInt8) (offset next : Nat) : Prop :=
  (∃ label, LabelAt buffer offset label ∧ next = offset + 1 + label.length) ∨
    PointerAt buffer offset next

/-! ## One way to go on -/

theorem LabelAt.getElem? (h : LabelAt buffer offset label) :
    ∃ length, buffer[offset]? = some length ∧ length.toNat = label.length :=
  Option.map_eq_some_iff.1 h.length_eq

/-- A label at an offset is the only one there. -/
theorem LabelAt.unique (h : LabelAt buffer offset label) (h' : LabelAt buffer offset label') :
    label = label' := by
  have hlength : label.length = label'.length :=
    Option.some.inj (h.length_eq.symm.trans h'.length_eq)
  rw [← h.octets_eq, ← h'.octets_eq, hlength]

theorem PointerAt.unique (h : PointerAt buffer offset next) (h' : PointerAt buffer offset next') :
    next = next' := by
  obtain ⟨first, second, hfirst, -, hsecond, rfl⟩ := h
  obtain ⟨first', second', hfirst', -, hsecond', rfl⟩ := h'
  rw [hfirst] at hfirst'
  rw [hsecond] at hsecond'
  cases hfirst'
  cases hsecond'
  rfl

/-- A label is no pointer. -/
theorem LabelAt.not_pointerAt (h : LabelAt buffer offset label) :
    ¬ PointerAt buffer offset next := by
  rintro ⟨first, second, hfirst, hmark, -, -⟩
  obtain ⟨length, hlength, heq⟩ := h.getElem?
  have hle := h.le
  rw [hfirst] at hlength
  cases hlength
  omega

theorem Continues.unique (h : Continues buffer offset next) (h' : Continues buffer offset next') :
    next = next' := by
  rcases h with ⟨label, hlabel, rfl⟩ | hpointer
  · rcases h' with ⟨label', hlabel', rfl⟩ | hpointer'
    · rw [hlabel.unique hlabel']
    · exact absurd hpointer' hlabel.not_pointerAt
  · rcases h' with ⟨label', hlabel', rfl⟩ | hpointer'
    · exact absurd hpointer hlabel'.not_pointerAt
    · exact hpointer.unique hpointer'

/-- The end of a name does not go on. -/
theorem not_continues_of_root (h : buffer[offset]? = some 0) : ¬ Continues buffer offset next := by
  rintro (⟨label, hlabel, -⟩ | ⟨first, second, hfirst, hmark, -⟩)
  · obtain ⟨length, hlength, heq⟩ := hlabel.getElem?
    have hpos := hlabel.pos
    rw [h] at hlength
    cases hlength
    simp at heq
    omega
  · rw [h] at hfirst
    cases hfirst
    simp at hmark

/-! ## No way in a circle -/

/-- If an offset goes on at one that lies on no circle, neither does the offset itself: there is
only one way from it. -/
theorem not_cyclic_of_continues (h : Continues buffer offset next)
    (hnext : ¬ Relation.TransGen (Continues buffer) next next) :
    ¬ Relation.TransGen (Continues buffer) offset offset := by
  intro hcycle
  obtain ⟨next', hstep, hback⟩ := Relation.TransGen.head'_iff.1 hcycle
  obtain rfl := h.unique hstep
  exact hnext (Relation.TransGen.tail' hback h)

/-- **A name that ends never comes to an offset twice.** -/
theorem Expands.not_cyclic (h : Expands buffer offset labels resume) :
    ¬ Relation.TransGen (Continues buffer) offset offset := by
  induction h with
  | root h =>
    intro hcycle
    obtain ⟨next, hstep, -⟩ := Relation.TransGen.head'_iff.1 hcycle
    exact not_continues_of_root h hstep
  | label h _ ih => exact not_cyclic_of_continues (.inl ⟨_, h, rfl⟩) ih
  | pointer h _ ih => exact not_cyclic_of_continues (.inr h) ih

/-- Wherever a name comes to, the rest of it is a name that ends. -/
theorem Expands.rest (h : Expands buffer offset labels resume)
    (hreach : Relation.ReflTransGen (Continues buffer) offset next) :
    ∃ labels' resume', Expands buffer next labels' resume' := by
  induction h with
  | @root offset hroot =>
    rcases Relation.ReflTransGen.cases_head hreach with rfl | ⟨next', hstep, -⟩
    · exact ⟨[], offset + 1, .root hroot⟩
    · exact absurd hstep (not_continues_of_root hroot)
  | label hlabel hrest ih =>
    rcases Relation.ReflTransGen.cases_head hreach with rfl | ⟨next', hstep, hreach⟩
    · exact ⟨_, _, .label hlabel hrest⟩
    · obtain rfl := hstep.unique (.inl ⟨_, hlabel, rfl⟩)
      exact ih hreach
  | pointer hpointer hrest ih =>
    rcases Relation.ReflTransGen.cases_head hreach with rfl | ⟨next', hstep, hreach⟩
    · exact ⟨_, _, .pointer hpointer hrest⟩
    · obtain rfl := hstep.unique (.inr hpointer)
      exact ih hreach

theorem Expands.lt_size (h : Expands buffer offset labels resume) : offset < buffer.size := by
  have hsome : ∃ first, buffer[offset]? = some first := by
    cases h with
    | root h => exact ⟨0, h⟩
    | label h _ =>
      obtain ⟨length, hlength, -⟩ := h.getElem?
      exact ⟨length, hlength⟩
    | pointer h _ =>
      obtain ⟨first, second, hfirst, -⟩ := h
      exact ⟨first, hfirst⟩
  obtain ⟨first, hfirst⟩ := hsome
  exact (Array.getElem?_eq_some_iff.1 hfirst).1

/-- The reader moves on, and not out of the message. -/
theorem Expands.resume_bounds (h : Expands buffer offset labels resume) :
    offset < resume ∧ resume ≤ buffer.size := by
  induction h with
  | root h => exact ⟨Nat.lt_succ_self _, (Array.getElem?_eq_some_iff.1 h).1⟩
  | label _ _ ih => exact ⟨by omega, ih.2⟩
  | pointer h _ _ =>
    obtain ⟨first, second, -, -, hsecond, -⟩ := h
    exact ⟨by omega, (Array.getElem?_eq_some_iff.1 hsecond).1⟩

/-- All labels have from 1 to 63 octets. -/
theorem Expands.length_mem (h : Expands buffer offset labels resume) :
    ∀ label ∈ labels, 1 ≤ label.length ∧ label.length ≤ 63 := by
  induction h with
  | root _ => simp
  | label h _ ih =>
    intro label hmem
    rcases List.mem_cons.1 hmem with rfl | hmem
    · exact ⟨h.pos, h.le⟩
    · exact ih label hmem
  | pointer _ _ ih => exact ih

/-! ## Reading by the rules -/

theorem pointerMark_le_iff {octet : UInt8} : pointerMark ≤ octet ↔ 192 ≤ octet.toNat :=
  UInt8.le_iff_toNat_le

theorem reservedMark_le_iff {octet : UInt8} : reservedMark ≤ octet ↔ 64 ≤ octet.toNat :=
  UInt8.le_iff_toNat_le

theorem pointerTarget_eq {first : UInt8} (second : UInt8) :
    pointerTarget first second = (first.toNat * 256 + second.toNat) % 2 ^ 14 := by
  have hsecond := second.toNat_lt
  rw [pointerTarget]
  omega

theorem LabelAt.inside (h : LabelAt buffer offset label) :
    offset + 1 + label.length ≤ buffer.size := by
  have hlength := congrArg List.length h.octets_eq
  have hpos := h.pos
  rw [Array.length_toList, Array.size_extract] at hlength
  omega

theorem expand_of_root (h : buffer[offset]? = some 0) (hseen : offset ∉ seen) :
    expand buffer offset seen used = .ok ([], offset + 1) := by
  obtain ⟨hsize, hzero⟩ := Array.getElem?_eq_some_iff.1 h
  rw [expand, dif_pos ⟨hsize, hseen⟩, hzero]
  rfl

theorem expand_of_label (h : LabelAt buffer offset label) (hseen : offset ∉ seen)
    (hused : used + label.length + 1 ≤ maxNameLength)
    (hrest : expand buffer (offset + 1 + label.length) (offset :: seen) (used + label.length + 1) =
      .ok (labels, resume)) :
    expand buffer offset seen used = .ok (label :: labels, resume) := by
  obtain ⟨length, hlength, heq⟩ := h.getElem?
  obtain ⟨hsize, hfirst⟩ := Array.getElem?_eq_some_iff.1 hlength
  have hpos := h.pos
  have hle := h.le
  have hpointer : ¬ pointerMark ≤ length := by
    rw [pointerMark_le_iff]
    omega
  have hreserved : ¬ reservedMark ≤ length := by
    rw [reservedMark_le_iff]
    omega
  have hzero : length ≠ 0 := by
    rintro rfl
    simp at heq
    omega
  rw [expand, dif_pos ⟨hsize, hseen⟩]
  simp only [hfirst, if_neg hpointer, if_neg hreserved, if_neg hzero, heq]
  rw [if_pos ⟨h.inside, hused⟩, hrest, h.octets_eq]

theorem expand_of_pointer (h : PointerAt buffer offset next) (hseen : offset ∉ seen) {after : Nat}
    (hrest : expand buffer next (offset :: seen) used = .ok (labels, after)) :
    expand buffer offset seen used = .ok (labels, offset + 2) := by
  obtain ⟨first, second, hfirst, hmark, hsecond, rfl⟩ := h
  obtain ⟨hsize, hfirst⟩ := Array.getElem?_eq_some_iff.1 hfirst
  rw [← pointerTarget_eq] at hrest
  rw [expand, dif_pos ⟨hsize, hseen⟩]
  simp only [hfirst, if_pos (pointerMark_le_iff.2 hmark), hsecond, hrest]

theorem labelsLength_pos (labels : List Octets) : 1 ≤ labelsLength labels := by
  cases labels with
  | nil => exact Nat.le_refl 1
  | cons label labels =>
    rw [labelsLength]
    omega

/-- A name that follows the rules is read, as long as its labels are not too long together.  The
offsets seen so far lead to the present one, so it is none of them. -/
theorem Expands.expand_eq_ok (h : Expands buffer offset labels resume)
    (hseen : ∀ earlier ∈ seen, Relation.TransGen (Continues buffer) earlier offset)
    (hlength : used + labelsLength labels ≤ maxNameLength + 1) :
    expand buffer offset seen used = .ok (labels, resume) := by
  have hnew : offset ∉ seen := fun hmem => h.not_cyclic (hseen offset hmem)
  induction h generalizing seen used with
  | root h => exact expand_of_root h hnew
  | @label offset resume label labels h hrest ih =>
    have hstep : Continues buffer offset (offset + 1 + label.length) := .inl ⟨label, h, rfl⟩
    have hseen' : ∀ earlier ∈ offset :: seen,
        Relation.TransGen (Continues buffer) earlier (offset + 1 + label.length) := by
      intro earlier hmem
      rcases List.mem_cons.1 hmem with rfl | hmem
      · exact .single hstep
      · exact (hseen earlier hmem).tail hstep
    have hpos := labelsLength_pos labels
    rw [labelsLength] at hlength
    refine expand_of_label h hnew (by omega) (ih hseen' (by omega) ?_)
    exact fun hmem => hrest.not_cyclic (hseen' _ hmem)
  | @pointer offset target after labels h hrest ih =>
    have hseen' : ∀ earlier ∈ offset :: seen,
        Relation.TransGen (Continues buffer) earlier target := by
      intro earlier hmem
      rcases List.mem_cons.1 hmem with rfl | hmem
      · exact .single (.inr h)
      · exact (hseen earlier hmem).tail (.inr h)
    exact expand_of_pointer h hnew
      (ih hseen' hlength fun hmem => hrest.not_cyclic (hseen' _ hmem))

theorem length_extract_of_le {length : Nat} (hinside : offset + 1 + length ≤ buffer.size) :
    (buffer.extract (offset + 1) (offset + 1 + length)).toList.length = length := by
  rw [Array.length_toList, Array.size_extract]
  omega

/-- What reading takes for a label is one. -/
theorem labelAt_extract (hsize : offset < buffer.size) (hreserved : ¬ reservedMark ≤ buffer[offset])
    (hzero : buffer[offset] ≠ 0) (hinside : offset + 1 + buffer[offset].toNat ≤ buffer.size) :
    LabelAt buffer offset
      (buffer.extract (offset + 1) (offset + 1 + buffer[offset].toNat)).toList := by
  have hlength := length_extract_of_le hinside
  have hpos : buffer[offset].toNat ≠ 0 := fun hnil => hzero (UInt8.toNat_inj.1 hnil)
  rw [reservedMark_le_iff] at hreserved
  refine ⟨?_, ?_, ?_, ?_⟩
  · rw [Array.getElem?_eq_getElem hsize, hlength, Option.map_some]
  · omega
  · omega
  · rw [hlength]

/-- What reading yields follows the rules, and the labels are not too long together. -/
theorem expands_of_expand (hused : used ≤ maxNameLength)
    (h : expand buffer offset seen used = .ok (labels, resume)) :
    Expands buffer offset labels resume ∧
      used + labelsLength labels ≤ maxNameLength + 1 := by
  fun_induction expand buffer offset seen used generalizing labels resume with
  | case3 offset seen used hnew first hmark second hsecond labels after hrest =>
    rename_i ih
    cases h
    obtain ⟨hexpands, hlength⟩ := ih hused hrest
    have hfirst := Array.getElem?_eq_getElem hnew.1
    have hpointer : PointerAt buffer offset (pointerTarget first second) :=
      ⟨first, second, hfirst, pointerMark_le_iff.1 hmark, hsecond, pointerTarget_eq second⟩
    exact ⟨.pointer hpointer hexpands, hlength⟩
  | case5 offset seen used hnew first hpointer hreserved =>
    rename_i hzero
    cases h
    refine ⟨.root ?_, Nat.succ_le_succ hused⟩
    rw [Array.getElem?_eq_getElem hnew.1]
    exact congrArg some hzero
  | case7 offset seen used hnew first hpointer hreserved hzero stop used' hfits labels after =>
    rename_i hrest ih
    cases h
    obtain ⟨hexpands, hlength⟩ := ih hfits.2 hrest
    have hlabel := labelAt_extract hnew.1 hreserved hzero hfits.1
    have heq := length_extract_of_le hfits.1
    refine ⟨.label hlabel ?_, ?_⟩
    · rw [heq]
      exact hexpands
    · rw [labelsLength, heq]
      omega
  | _ => cases h

/-- **Reading follows the rules,** as far as the labels are not too long together. -/
theorem expand_eq_ok_iff :
    expand buffer offset [] 1 = .ok (labels, resume) ↔
      Expands buffer offset labels resume ∧ labelsLength labels ≤ maxNameLength := by
  constructor
  · intro h
    obtain ⟨hexpands, hlength⟩ := expands_of_expand (by decide) h
    exact ⟨hexpands, by omega⟩
  · rintro ⟨hexpands, hlength⟩
    exact hexpands.expand_eq_ok (fun _ hmem => absurd hmem List.not_mem_nil) (by omega)

/-- Whatever is wrong with a name, it is malformed at some offset. -/
theorem exists_malformedName_of_expand {fault : WireError}
    (h : expand buffer offset seen used = .error fault) :
    ∃ place, fault = .malformedName place := by
  fun_induction expand buffer offset seen used with
  | case2 offset seen used hnew first hmark second hsecond error hrest ih =>
    cases h
    exact ih hrest
  | case3 => cases h
  | case5 => cases h
  | case6 offset seen used hnew first hpointer hreserved hzero stop used' hfits error hrest ih =>
    cases h
    exact ih hrest
  | case7 => cases h
  | _ offset =>
    cases h
    exact ⟨offset, rfl⟩

/-! ## What comes of reading a name -/

section Decode

variable {reader after : Reader} {name : Name}

theorem decode_of_le (h : reader.buffer.size ≤ reader.position) :
    decode reader = .error (reader.outOfBounds 1) reader := by
  have hnone : ¬ 1 ≤ reader.remaining := by
    rw [Reader.remaining, Reader.length]
    omega
  have hpeek : Decoder.peek 1 reader = .error (reader.outOfBounds 1) reader := if_neg hnone
  exact Decoder.bind_of_eq_error hpeek

theorem decode_of_lt (h : reader.position < reader.buffer.size) :
    decode reader =
      match expand reader.buffer reader.position [] 1 with
      | .error error => .error error reader
      | .ok (labels, resume) => .ok (ofRawLabels labels) { reader with position := resume } := by
  have hsome : 1 ≤ reader.remaining := by
    rw [Reader.remaining, Reader.length]
    omega
  have hpeek : Decoder.peek 1 reader = .ok (reader.ahead 1) reader := if_pos hsome
  exact Decoder.bind_of_eq_ok hpeek

/-- A name is read exactly if one stands there by the rules, and it is not too long. -/
theorem decode_eq_ok_iff :
    decode reader = .ok name after ↔
      ∃ labels resume, Expands reader.buffer reader.position labels resume ∧
        labelsLength labels ≤ maxNameLength ∧ name = ofRawLabels labels ∧
        after = { reader with position := resume } := by
  constructor
  · intro h
    by_cases hposition : reader.position < reader.buffer.size
    · rw [decode_of_lt hposition] at h
      cases hexpand : expand reader.buffer reader.position [] 1 with
      | error error =>
        rw [hexpand] at h
        cases h
      | ok found =>
        obtain ⟨labels, resume⟩ := found
        rw [hexpand] at h
        cases h
        obtain ⟨hexpands, hlength⟩ := expand_eq_ok_iff.1 hexpand
        exact ⟨labels, resume, hexpands, hlength, rfl, rfl⟩
    · rw [decode_of_le (Nat.not_lt.1 hposition)] at h
      cases h
  · rintro ⟨labels, resume, hexpands, hlength, rfl, rfl⟩
    rw [decode_of_lt hexpands.lt_size, expand_eq_ok_iff.2 ⟨hexpands, hlength⟩]

/-- A failure does not move the reader. -/
theorem of_decode_eq_error {fault : WireError} (h : decode reader = .error fault after) :
    after = reader ∧
      ((reader.buffer.size ≤ reader.position ∧ fault = reader.outOfBounds 1) ∨
        (reader.position < reader.buffer.size ∧ ∃ place, fault = .malformedName place)) := by
  by_cases hposition : reader.position < reader.buffer.size
  · rw [decode_of_lt hposition] at h
    cases hexpand : expand reader.buffer reader.position [] 1 with
    | error error =>
      rw [hexpand] at h
      cases h
      exact ⟨rfl, .inr ⟨hposition, exists_malformedName_of_expand hexpand⟩⟩
    | ok found =>
      rw [hexpand] at h
      cases h
  · rw [decode_of_le (Nat.not_lt.1 hposition)] at h
    cases h
    exact ⟨rfl, .inl ⟨Nat.not_lt.1 hposition, rfl⟩⟩

/-- A name that comes to an offset twice is not read. -/
theorem decode_ne_ok_of_cyclic
    (hreach : Relation.ReflTransGen (Continues reader.buffer) reader.position offset)
    (hcycle : Relation.TransGen (Continues reader.buffer) offset offset) :
    decode reader ≠ .ok name after := by
  intro h
  obtain ⟨labels, resume, hexpands, -⟩ := decode_eq_ok_iff.1 h
  obtain ⟨labels', resume', hrest⟩ := hexpands.rest hreach
  exact hrest.not_cyclic hcycle

/-- **Reading a name follows the rules.**  At any position of any message, a name is read exactly if
labels stand there by the rules and are not too long together; it then has just these labels, in the
same order, and the reader moves to the place after the part of the name that stands there.  A name
that comes to an offset twice is never read.  A failure leaves the reader where it was: the end of
the message is out of bounds, and anything else is malformed. -/
theorem decode_follows_rules (reader : Reader) (hposition : reader.position ≤ reader.buffer.size) :
    (∀ name after, decode reader = .ok name after ↔
      ∃ labels resume, Expands reader.buffer reader.position labels resume ∧
        labelsLength labels ≤ maxNameLength ∧ name = ofRawLabels labels ∧
        after = { reader with position := resume }) ∧
    (∀ labels resume, Expands reader.buffer reader.position labels resume →
      (ofRawLabels labels).labels = labels.map Label.escape ∧
      (ofRawLabels labels).rawLabels = labels ∧
      reader.position < resume ∧ resume ≤ reader.buffer.size) ∧
    (∀ offset, Relation.ReflTransGen (Continues reader.buffer) reader.position offset →
      Relation.TransGen (Continues reader.buffer) offset offset →
      ∃ fault, decode reader = .error fault reader) ∧
    ∀ fault after, decode reader = .error fault after →
      after = reader ∧
        if reader.position = reader.buffer.size then
          fault = .outOfBounds reader.position 1 reader.buffer.size
        else ∃ place, fault = .malformedName place := by
  refine ⟨fun name after => decode_eq_ok_iff, ?_, ?_, ?_⟩
  · intro labels resume hexpands
    have hne : ∀ label ∈ labels, label ≠ [] := fun label hmem =>
      List.length_pos_iff.1 (hexpands.length_mem label hmem).1
    exact ⟨labels_ofRawLabels hne, rawLabels_ofRawLabels hne, hexpands.resume_bounds⟩
  · intro offset hreach hcycle
    cases hdecode : decode reader with
    | ok name after => exact absurd hdecode (decode_ne_ok_of_cyclic hreach hcycle)
    | error fault after =>
      obtain ⟨rfl, -⟩ := of_decode_eq_error hdecode
      exact ⟨fault, rfl⟩
  · intro fault after h
    obtain ⟨hafter, ⟨hend, hfault⟩ | ⟨hinside, hfault⟩⟩ := of_decode_eq_error h
    · rw [if_pos (Nat.le_antisymm hposition hend)]
      exact ⟨hafter, hfault⟩
    · rw [if_neg (Nat.ne_of_lt hinside)]
      exact ⟨hafter, hfault⟩

/-- A label and a pointer back into the message. -/
theorem decode_follows_rules_pointer :
    let reader : Reader := ⟨#[3, 0x77, 0x77, 0x77, 0, 1, 0x61, 0xc0, 0], 5⟩
    reader.position ≤ reader.buffer.size ∧
      decode reader = .ok ⟨"a.www"⟩ { reader with position := 9 } ∧
      ∃ labels resume, Expands reader.buffer 5 labels resume ∧ labelsLength labels ≤ maxNameLength ∧
        (Name.mk "a.www") = ofRawLabels labels ∧
        ({ reader with position := 9 } : Reader) = { reader with position := resume } := by
  intro reader
  have hposition : reader.position ≤ reader.buffer.size := by decide
  have hwww : Expands reader.buffer 0 [[0x77, 0x77, 0x77]] 5 :=
    .label ⟨rfl, by decide, by decide, rfl⟩ (.root rfl)
  have hname : Expands reader.buffer 5 [[0x61], [0x77, 0x77, 0x77]] 9 :=
    .label ⟨rfl, by decide, by decide, rfl⟩ (.pointer ⟨192, 0, rfl, by decide, rfl, by decide⟩ hwww)
  have hdecode : decode reader = .ok ⟨"a.www"⟩ { reader with position := 9 } :=
    decode_eq_ok_iff.2 ⟨_, _, hname, by decide, by decide +kernel, rfl⟩
  exact ⟨hposition, hdecode, ((decode_follows_rules reader hposition).1 _ _).1 hdecode⟩

end Decode

end IterativeDns.Name
