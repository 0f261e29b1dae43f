import IterativeDns.Message
import IterativeDns.Proofs.Records

/-!
# Messages, written and read

A message is built step by step, from a header without entries, and then encoded.  This file shows
that reading the octets gives the message back, entry by entry, with nothing left over.  Names come
back in their canonical spelling.

* `Message.Built` — messages that are built step by step; `Message.Built.isCounted` says that the
  header counts their entries.
* `Message.IsSound` — a message of which all parts can be written without loss.
* `Message.decode_encode_of_built` — **a sound message that was built is read from its encoding.**
-/

namespace IterativeDns

/-! ## Headers and questions -/

/-- Every header is read from its encoding. -/
theorem Header.reads_encode (header : Header) : decode.Reads header.encode header := by
  rw [encode]
  simp only [List.flatMap_cons, List.flatMap_nil]
  refine (Decoder.Reads.uint16Padded _).bind ((Decoder.Reads.uint16Padded _).bind ?_)
  refine (Decoder.Reads.uint16Padded _).bind ((Decoder.Reads.uint16Padded _).bind ?_)
  exact (Decoder.Reads.uint16Padded _).bind ((Decoder.Reads.uint16Padded _).bind (.pure _))

namespace Question

/-- The question about another name. -/
def mapName (f : Name → Name) (question : Question) : Question :=
  { question with name := f question.name }

/-- A question that can be written without loss: its name was parsed or read, and its type is the
one that its code stands for. -/
structure IsSound (question : Question) : Prop where
  /-- The name was parsed or read. -/
  name : question.name.IsAccepted
  /-- The type is the one that its code stands for. -/
  type : question.type.IsCanonical

theorem reads_encode {question : Question} (h : question.IsSound) :
    decode.Reads question.encode (question.mapName Name.canonical) := by
  have htype : RecordType.ofCode question.type.code = question.type := h.type
  have hreads : decode.Reads question.encode
      ⟨question.name.canonical, .ofCode question.type.code, question.classCode⟩ := by
    rw [encode, List.append_assoc]
    refine (Name.reads_encode h.name.isValid).bind ((Decoder.Reads.uint16 _).bind ?_)
    exact (Decoder.Reads.uint16 _).map
      (Question.mk question.name.canonical (.ofCode question.type.code))
  rwa [htype] at hreads

end Question

namespace Message

variable {message : Message}

/-! ## Building a message -/

/-- A message that is built step by step: from a header without entries, with at most one question
and at most 65535 records in each section, in any order. -/
inductive Built : Message → Prop where
  /-- There are no entries at first. -/
  | ofHeader (id : UInt16) (flags : Flags) : Built (ofHeader (.empty id flags))
  /-- A question is added to a message without one. -/
  | addQuestion {message : Message} (h : Built message) (hnone : message.question = none)
      (question : Question) : Built (message.addQuestion question)
  /-- An answer is added. -/
  | addAnswer {message : Message} (h : Built message) (hroom : message.answers.length < 65535)
      (record : Record) : Built (message.addAnswer record)
  /-- A record that names an authority is added. -/
  | addAuthority {message : Message} (h : Built message)
      (hroom : message.authorities.length < 65535) (record : Record) :
      Built (message.addAuthority record)
  /-- An additional record is added. -/
  | addAdditional {message : Message} (h : Built message)
      (hroom : message.additionals.length < 65535) (record : Record) :
      Built (message.addAdditional record)

/-- The header of a message counts its entries. -/
structure IsCounted (message : Message) : Prop where
  /-- There is at most one question. -/
  questions : message.header.questions = if message.question = none then 0 else 1
  /-- The answers are counted. -/
  answers : message.header.answers.toNat = message.answers.length
  /-- The authorities are counted. -/
  authorities : message.header.authorities.toNat = message.authorities.length
  /-- The additional records are counted. -/
  additionals : message.header.additionals.toNat = message.additionals.length

/-- One entry more is counted, if there is room for it. -/
theorem toNat_add_one {count : UInt16} {records : List Record} (h : count.toNat = records.length)
    (hroom : records.length < 65535) (record : Record) :
    (count + 1).toNat = (records ++ [record]).length := by
  have hone : (1 : UInt16).toNat = 1 := rfl
  rw [UInt16.toNat_add, List.length_append, List.length_singleton, h, hone]
  exact Nat.mod_eq_of_lt (by omega)

/-- **The header of a message that was built counts its entries.** -/
theorem Built.isCounted (h : message.Built) : message.IsCounted := by
  induction h with
  | ofHeader id flags => exact ⟨rfl, rfl, rfl, rfl⟩
  | addQuestion h hnone question ih => exact ⟨rfl, ih.answers, ih.authorities, ih.additionals⟩
  | addAnswer h hroom record ih =>
    exact ⟨ih.questions, toNat_add_one ih.answers hroom record, ih.authorities, ih.additionals⟩
  | addAuthority h hroom record ih =>
    exact ⟨ih.questions, ih.answers, toNat_add_one ih.authorities hroom record, ih.additionals⟩
  | addAdditional h hroom record ih =>
    exact ⟨ih.questions, ih.answers, ih.authorities, toNat_add_one ih.additionals hroom record⟩

/-! ## Names in a message -/

/-- All names in the message. -/
def names (message : Message) : List Name :=
  message.question.toList.map (·.name) ++ message.records.flatMap Record.names

/-- The message with other names. -/
def mapNames (f : Name → Name) (message : Message) : Message :=
  { message with
    question := message.question.map (·.mapName f)
    answers := message.answers.map (·.mapNames f)
    authorities := message.authorities.map (·.mapNames f)
    additionals := message.additionals.map (·.mapNames f) }

theorem map_mapNames_eq_self {f : Name → Name} {records : List Record}
    (h : ∀ record ∈ records, ∀ name ∈ record.names, f name = name) :
    records.map (·.mapNames f) = records := by
  calc records.map (·.mapNames f)
      = records.map fun record => record := List.map_congr_left fun record hmem =>
        Record.mapNames_eq_self (h record hmem)
    _ = records := List.map_id' records

theorem mapNames_eq_self {f : Name → Name} (h : ∀ name ∈ message.names, f name = name) :
    message.mapNames f = message := by
  have hrecords : ∀ record ∈ message.records, ∀ name ∈ record.names, f name = name :=
    fun record hrecord name hname =>
      h name (List.mem_append_right _ (List.mem_flatMap.2 ⟨record, hrecord, hname⟩))
  have hquestion : message.question.map (·.mapName f) = message.question := by
    cases hquestion : message.question with
    | none => rfl
    | some question =>
      have hname := h question.name (List.mem_append_left _ (by simp [hquestion]))
      rw [Option.map_some, Question.mapName, hname]
  simp only [records, List.mem_append] at hrecords
  rw [mapNames, hquestion,
    map_mapNames_eq_self fun record hmem => hrecords record (.inl (.inl hmem)),
    map_mapNames_eq_self fun record hmem => hrecords record (.inl (.inr hmem)),
    map_mapNames_eq_self fun record hmem => hrecords record (.inr hmem)]

/-! ## Reading a message -/

/-- A message that can be written without loss. -/
structure IsSound (message : Message) : Prop where
  /-- The response code is 0, 3 or 5. -/
  response : message.header.flags.responseCode = 0 ∨ message.header.flags.responseCode = 3 ∨
    message.header.flags.responseCode = 5
  /-- The question is sound. -/
  question : ∀ question ∈ message.question, question.IsSound
  /-- All records are sound. -/
  records : ∀ record ∈ message.records, record.IsSound

theorem reads_question (hcounted : message.IsCounted)
    (h : ∀ question ∈ message.question, question.IsSound) :
    (decodeQuestion message.header.questions).Reads
      ((message.question.map Question.encode).getD [])
      (message.question.map (·.mapName Name.canonical)) := by
  rw [hcounted.questions]
  cases hquestion : message.question with
  | none => exact .pure none
  | some question => exact (Question.reads_encode (h question hquestion)).map some

/-- Records that are counted are read from their encoding. -/
theorem reads_records {count : UInt16} {records : List Record}
    (hcount : count.toNat = records.length) (h : ∀ record ∈ records, record.IsSound) :
    (Decoder.times Record.decode count.toNat).Reads (records.flatMap Record.encode)
      (records.map (·.mapNames Name.canonical)) := by
  rw [hcount]
  exact .times fun record hmem => Record.reads_encode (h record hmem)

/-- **A sound message is read from its encoding,** if its header counts its entries. -/
theorem reads_encode (hcounted : message.IsCounted) (h : message.IsSound) :
    read.Reads message.encode (message.mapNames Name.canonical) := by
  intro reader hahead
  have hrecords := h.records
  simp only [records, List.mem_append] at hrecords
  have hanswers := reads_records hcounted.answers fun record hmem =>
    hrecords record (.inl (.inl hmem))
  have hauthorities := reads_records hcounted.authorities fun record hmem =>
    hrecords record (.inl (.inr hmem))
  have hadditionals := reads_records hcounted.additionals fun record hmem =>
    hrecords record (.inr hmem)
  have hencode : message.encode = message.header.encode ++
      ((message.question.map Question.encode).getD [] ++
      (message.answers.flatMap Record.encode ++ (message.authorities.flatMap Record.encode ++
      message.additionals.flatMap Record.encode))) := by
    simp only [encode, records, List.flatMap_append, List.append_assoc]
  rw [hencode] at hahead ⊢
  obtain ⟨hheader, hahead⟩ := (Header.reads_encode message.header).step hahead
  obtain ⟨hquestion, hahead⟩ := (reads_question hcounted h.question).step hahead
  obtain ⟨hanswers, hahead⟩ := hanswers.step hahead
  obtain ⟨hauthorities, hahead⟩ := hauthorities.step hahead
  have hadditionals := hadditionals _ hahead
  have hfault : message.response.fault? = none :=
    (ResponseCode.fault?_ofCode_eq_none_iff _).2 h.response
  simp only [Reader.advance_advance, List.length_append, Nat.add_assoc] at *
  exact read_eq_ok.2 ⟨hfault, _, _, _, _, hheader, hquestion, hanswers, hauthorities, hadditionals⟩

/-- **A sound message that was built is read from its encoding.**  All octets are read, and the
message that comes back differs in nothing but the spelling of names, which is canonical; where the
names were spelled so before, it is the very same message. -/
theorem decode_encode_of_built (message : Message) (hbuilt : message.Built)
    (hsound : message.IsSound) :
    read (.ofOctets message.encode) =
      .ok (message.mapNames Name.canonical) ⟨message.encode.toArray, message.encode.length⟩ ∧
    decode message.encode = .ok (message.mapNames Name.canonical) ∧
    ((∀ name ∈ message.names, name.canonical = name) → decode message.encode = .ok message) := by
  have hread := reads_encode hbuilt.isCounted hsound (.ofOctets message.encode)
    (List.prefix_refl message.encode)
  have hdecode : decode message.encode = .ok (message.mapNames Name.canonical) := by
    rw [decode, Decoder.run, hread]
  refine ⟨?_, hdecode, fun hnames => ?_⟩
  · rw [hread, Reader.advance]
    simp [Reader.ofOctets]
  · rw [hdecode, mapNames_eq_self hnames]

/-- A response about a zone, with names that are not spelled canonically. -/
def zoneResponse : Message :=
  let flags := Flags.none.setResponse true
  (((ofHeader (.empty 7 flags)).addQuestion ⟨⟨"Example.com."⟩, .soa, internetClass⟩).addAnswer
    ⟨⟨"Example.com"⟩, .soa, internetClass, 3600,
      .soa ⟨"ns.example.com."⟩ ⟨"\\106ohn\\046doe.example.com"⟩ 1 2 3 4 5⟩).addAdditional
    ⟨.root, .other 41, 1232, 0, .raw [0, 10, 0, 0]⟩

/-- The response comes back with all its names in their canonical spelling. -/
theorem decode_encode_of_built_zoneResponse :
    zoneResponse.Built ∧ zoneResponse.IsSound ∧
      decode zoneResponse.encode = .ok (zoneResponse.mapNames Name.canonical) ∧
      (zoneResponse.mapNames Name.canonical).names.map (·.text) =
        ["Example.com", "Example.com", "ns.example.com", "john\\046doe.example.com", ""] := by
  have hbuilt : zoneResponse.Built :=
    .addAdditional (.addAnswer (.addQuestion (.ofHeader 7 _) rfl _) (by decide) _) (by decide) _
  have hnames : ∀ name ∈ zoneResponse.names,
      (Name.parse name.text).toOption = some name := by decide +kernel
  have haccepted : ∀ name ∈ zoneResponse.names, name.IsAccepted := by
    intro name hmem
    have hname := hnames name hmem
    cases hparse : Name.parse name.text with
    | error fault =>
      rw [hparse] at hname
      cases hname
    | ok parsed =>
      rw [hparse] at hname
      cases hname
      exact .inl ⟨_, hparse⟩
  have hrecords : ∀ record ∈ zoneResponse.records,
      record.type.IsCanonical ∧ record.DataFits ∧ record.data.encode.length ≤ 65535 := by
    decide +kernel
  have hsound : zoneResponse.IsSound := by
    refine ⟨.inl (by decide), fun question hmem => ?_, fun record hmem => ?_⟩
    · cases hmem
      exact ⟨haccepted _ List.mem_cons_self, rfl⟩
    · obtain ⟨htype, hfits, hlength⟩ := hrecords record hmem
      refine ⟨fun name hname => haccepted name ?_, htype, hfits, fun octets hdata => ?_⟩
      · exact List.mem_append_right _ (List.mem_flatMap.2 ⟨record, hmem, hname⟩)
      · rwa [hdata] at hlength
  exact ⟨hbuilt, hsound, (decode_encode_of_built zoneResponse hbuilt hsound).2.1, by decide +kernel⟩

end Message

end IterativeDns
