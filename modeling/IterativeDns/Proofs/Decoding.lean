import IterativeDns.Message

/-!
# Decoders, step by step

A decoder either yields a value and moves on, or fails.  This file says when two decoders in a row
succeed (`Decoder.bind_eq_ok`), takes the decoders of records and of messages apart with it, and
concludes what every decoded message is like, whatever octets it was read from.

* `Record.DataFits` — the data of a record is of the kind that its type calls for.
* `Message.dataFits_of_decode`, `Message.fault?_of_decode` — every record of a decoded message has
  such data, and its response code lets the body be read.
-/

namespace IterativeDns

theorem eq_ok_of_toOption {ε α : Type} {result : Except ε α} {value : α}
    (h : result.toOption = some value) : result = .ok value := by
  cases result with
  | error fault => cases h
  | ok found =>
    cases h
    rfl

namespace Decoder

variable {α β : Type}

/-! ## Two decoders in a row -/

theorem bind_eq_ok {step : Decoder α} {rest : α → Decoder β} {reader after : Reader} {value : β} :
    (step >>= rest) reader = .ok value after ↔
      ∃ middle between, step reader = .ok middle between ∧
        rest middle between = .ok value after := by
  show EStateM.bind step rest reader = .ok value after ↔ _
  unfold EStateM.bind
  cases hstep : step reader with
  | ok middle between =>
    constructor
    · intro h
      exact ⟨middle, between, rfl, h⟩
    · rintro ⟨_, _, hsame, h⟩
      cases hsame
      exact h
  | error fault between => simp

@[simp] theorem pure_eq_ok {value value' : α} {reader after : Reader} :
    (pure value : Decoder α) reader = .ok value' after ↔ value = value' ∧ reader = after := by
  show EStateM.Result.ok value reader = .ok value' after ↔ _
  simp

@[simp] theorem throw_eq_ok {fault : WireError} {reader after : Reader} {value : α} :
    ¬ (throw fault : Decoder α) reader = .ok value after := by
  show ¬ EStateM.Result.error fault reader = .ok value after
  simp

@[simp] theorem get_eq_ok {reader reader' after : Reader} :
    (get : Decoder Reader) reader = .ok reader' after ↔ reader = reader' ∧ reader = after := by
  show EStateM.Result.ok reader reader = .ok reader' after ↔ _
  simp

/-- A check that precedes the rest must not fail. -/
theorem check_eq_ok {fails : Prop} [Decidable fails] {fault : WireError} {rest : Unit → Decoder α}
    {reader after : Reader} {value : α} :
    (if fails then throw fault >>= rest else rest ()) reader = .ok value after ↔
      ¬ fails ∧ rest () reader = .ok value after := by
  by_cases hfails : fails
  · rw [if_pos hfails, bind_eq_ok]
    simp [hfails]
  · simp [hfails]

/-- What every value of a step has, every value of a repetition of the step has. -/
theorem forall_mem_of_times {step : Decoder α} {holds : α → Prop}
    (hstep : ∀ reader value after, step reader = .ok value after → holds value) {count : Nat}
    {reader after : Reader} {values : List α} (h : times step count reader = .ok values after) :
    ∀ value ∈ values, holds value := by
  induction count generalizing reader after values with
  | zero =>
    obtain ⟨rfl, -⟩ := pure_eq_ok.1 h
    simp
  | succ count ih =>
    obtain ⟨first, between, hfirst, h⟩ := bind_eq_ok.1 h
    obtain ⟨rest, between', hrest, h⟩ := bind_eq_ok.1 h
    obtain ⟨rfl, -⟩ := pure_eq_ok.1 h
    intro value hmem
    rcases List.mem_cons.1 hmem with rfl | hmem
    · exact hstep _ _ _ hfirst
    · exact ih hrest value hmem

end Decoder

/-! ## Data of the right kind -/

/-- The type that the data of a record of a type belongs to; types that are not understood have
data that belongs to none. -/
def RecordType.dataType? : RecordType → Option RecordType
  | any => none
  | other _ => none
  | type => some type

/-- The data of a record is of the kind that its type calls for. -/
def Record.DataFits (record : Record) : Prop := record.data.type? = record.type.dataType?

instance (record : Record) : Decidable record.DataFits :=
  inferInstanceAs (Decidable (record.data.type? = record.type.dataType?))

theorem RecordData.type?_of_decode {type : RecordType} {length : UInt16} {reader after : Reader}
    {data : RecordData} (h : RecordData.decode type length reader = .ok data after) :
    data.type? = type.dataType? := by
  cases type <;> simp only [RecordData.decode, Decoder.bind_eq_ok, Decoder.pure_eq_ok] at h <;>
    grind [RecordData.type?, RecordType.dataType?]

/-- The codes that leave the body of a message a meaning. -/
theorem ResponseCode.fault?_eq_none_iff {code : ResponseCode} :
    code.fault? = none ↔ code = noError ∨ code = nameError ∨ code = refused := by
  cases code <;> simp [fault?]

/-! ## Records and messages taken apart -/

/-- What it takes to read a record. -/
theorem Record.decode_eq_ok {reader after : Reader} {record : Record} :
    Record.decode reader = .ok record after ↔
      ∃ owner code classed timed length start,
        Name.decode reader = .ok record.name owner ∧
        Decoder.uint16 owner = .ok code classed ∧ record.type = .ofCode code ∧
        Decoder.uint16 classed = .ok record.classCode timed ∧
        Decoder.uint32 timed = .ok record.ttl length ∧
        ∃ declared : UInt16, Decoder.uint16 length = .ok declared start ∧
          declared.toNat ≤ start.remaining ∧
          RecordData.decode record.type declared start = .ok record.data after ∧
          after.position - start.position = declared.toNat := by
  unfold Record.decode
  simp only [Decoder.bind_eq_ok, Decoder.check_eq_ok, Decoder.pure_eq_ok, Decoder.get_eq_ok]
  constructor
  · rintro ⟨name, owner, hname, code, classed, hcode, classCode, timed, hclass, ttl, length, httl,
      declared, start, hdeclared, _, _, ⟨rfl, rfl⟩, hroom, data, _, hdata, _, _, ⟨rfl, rfl⟩,
      hconsumed, rfl, rfl⟩
    exact ⟨owner, code, classed, timed, length, _, hname, hcode, rfl, hclass, httl, declared,
      hdeclared, Nat.not_lt.1 hroom, hdata, Decidable.not_not.1 hconsumed⟩
  · rintro ⟨owner, code, classed, timed, length, start, hname, hcode, htype, hclass, httl, declared,
      hdeclared, hroom, hdata, hconsumed⟩
    rw [htype] at hdata
    exact ⟨_, owner, hname, code, classed, hcode, _, timed, hclass, _, length, httl, declared,
      start, hdeclared, _, _, ⟨rfl, rfl⟩, Nat.not_lt.2 hroom, _, _, hdata, _, _, ⟨rfl, rfl⟩,
      Decidable.not_not.2 hconsumed, by rw [← htype], rfl⟩

/-- A record that is read has the data that its type calls for. -/
theorem Record.dataFits_of_decode {reader after : Reader} {record : Record}
    (h : Record.decode reader = .ok record after) : record.DataFits := by
  obtain ⟨_, _, _, _, _, _, -, -, -, -, -, _, -, -, hdata, -⟩ := Record.decode_eq_ok.1 h
  exact RecordData.type?_of_decode hdata

namespace Message

/-- What it takes to read a message. -/
theorem read_eq_ok {reader after : Reader} {message : Message} :
    read reader = .ok message after ↔
      message.response.fault? = none ∧
      ∃ asked answered authorized added,
        Header.decode reader = .ok message.header asked ∧
        decodeQuestion message.header.questions asked = .ok message.question answered ∧
        Record.decode.times message.header.answers.toNat answered =
          .ok message.answers authorized ∧
        Record.decode.times message.header.authorities.toNat authorized =
          .ok message.authorities added ∧
        Record.decode.times message.header.additionals.toNat added =
          .ok message.additionals after := by
  unfold read
  simp only [Decoder.bind_eq_ok]
  constructor
  · rintro ⟨header, asked, hheader, h⟩
    cases hfault : header.flags.response.fault? with
    | some fault => simp [hfault, Decoder.bind_eq_ok] at h
    | none =>
      simp only [hfault, Decoder.bind_eq_ok, Decoder.pure_eq_ok] at h
      obtain ⟨question, answered, hquestion, answers, authorized, hanswers, authorities, added,
        hauthorities, additionals, _, hadditionals, rfl, rfl⟩ := h
      exact ⟨hfault, asked, answered, authorized, added, hheader, hquestion, hanswers, hauthorities,
        hadditionals⟩
  · rintro ⟨hfault, asked, answered, authorized, added, hheader, hquestion, hanswers, hauthorities,
      hadditionals⟩
    refine ⟨_, asked, hheader, ?_⟩
    rw [show message.header.flags.response.fault? = none from hfault]
    simp only [Decoder.bind_eq_ok, Decoder.pure_eq_ok]
    exact ⟨_, answered, hquestion, _, authorized, hanswers, _, added, hauthorities, _, after,
      hadditionals, rfl, rfl⟩

theorem read_of_decode {octets : Octets} {message : Message} (h : decode octets = .ok message) :
    ∃ after, read (.ofOctets octets) = .ok message after := by
  unfold decode Decoder.run at h
  split at h
  · rename_i value after hread
    cases h
    exact ⟨after, hread⟩
  · cases h

/-- The response code of a message that can be read leaves its body a meaning. -/
theorem fault?_of_decode {octets : Octets} {message : Message} (h : decode octets = .ok message) :
    message.response.fault? = none := by
  obtain ⟨after, hread⟩ := read_of_decode h
  exact (read_eq_ok.1 hread).1

/-- What every record that is read has, every record of a message that was read has. -/
theorem forall_mem_records_of_read {holds : Record → Prop}
    (hrecord : ∀ reader record after, Record.decode reader = .ok record after → holds record)
    {reader after : Reader} {message : Message} (h : read reader = .ok message after) :
    ∀ record ∈ message.records, holds record := by
  obtain ⟨-, _, _, _, _, -, -, hanswers, hauthorities, hadditionals⟩ := read_eq_ok.1 h
  intro record hmem
  rw [records, List.mem_append, List.mem_append] at hmem
  rcases hmem with (hmem | hmem) | hmem
  · exact Decoder.forall_mem_of_times hrecord hanswers record hmem
  · exact Decoder.forall_mem_of_times hrecord hauthorities record hmem
  · exact Decoder.forall_mem_of_times hrecord hadditionals record hmem

/-- Every record of a message that can be read has the data that its type calls for. -/
theorem dataFits_of_decode {octets : Octets} {message : Message}
    (h : decode octets = .ok message) : ∀ record ∈ message.records, record.DataFits := by
  obtain ⟨after, hread⟩ := read_of_decode h
  exact forall_mem_records_of_read (fun _ _ _ => Record.dataFits_of_decode) hread

end Message

end IterativeDns
