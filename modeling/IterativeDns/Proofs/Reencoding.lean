import IterativeDns.Proofs.RoundTrip

/-!
# Messages, read and written again

A datagram comes from anyone, and its names may be compressed in any way, so reading it and writing
what was read need not give the same octets.  This file shows that nothing is lost all the same:
whatever was read is a message that can be written without loss, so that reading it once more gives
the same message.

* `Name.IsRead` — someone read the name from a message; `RecordData.isRead_of_decode` finds such
  names in data.
* `Message.IsWellFormed` — what every decoded message is like, whatever octets it was read from.
* `Message.decode_encode_of_decode` — **a decoded message is read again from its encoding.**
-/

namespace IterativeDns

/-! ## How much is read -/

namespace Decoder

variable {α : Type} {reader after : Reader}

theorem length_of_times {step : Decoder α} {count : Nat} {values : List α}
    (h : times step count reader = .ok values after) : values.length = count := by
  induction count generalizing reader after values with
  | zero =>
    obtain ⟨rfl, -⟩ := pure_eq_ok.1 h
    rfl
  | succ count ih =>
    obtain ⟨first, between, -, h⟩ := bind_eq_ok.1 h
    obtain ⟨rest, between', hrest, h⟩ := bind_eq_ok.1 h
    obtain ⟨rfl, -⟩ := pure_eq_ok.1 h
    rw [List.length_cons, ih hrest]

theorem length_le_of_take {count : Nat} {octets : Octets}
    (h : take count reader = .ok octets after) : octets.length ≤ count := by
  unfold take at h
  split at h
  · cases h
    simp only [Reader.ahead, Array.length_toList, Array.size_extract]
    omega
  · cases h

end Decoder

/-! ## Names that were read -/

/-- The name was read from a message. -/
def Name.IsRead (name : Name) : Prop := ∃ reader after, Name.decode reader = .ok name after

namespace RecordData

variable {type : RecordType} {length : UInt16} {reader after : Reader} {data : RecordData}

/-- The names in data that was read were read themselves. -/
theorem isRead_of_decode (h : decode type length reader = .ok data after) :
    ∀ name ∈ data.names, name.IsRead := by
  have hnone : ∀ name ∈ ([] : List Name), name.IsRead := fun _ hmem => absurd hmem List.not_mem_nil
  cases type <;> simp only [decode, Decoder.bind_eq_ok, Decoder.pure_eq_ok] at h
  case ns =>
    obtain ⟨server, _, hserver, rfl, -⟩ := h
    exact List.forall_mem_cons.2 ⟨⟨_, _, hserver⟩, hnone⟩
  case cname =>
    obtain ⟨target, _, htarget, rfl, -⟩ := h
    exact List.forall_mem_cons.2 ⟨⟨_, _, htarget⟩, hnone⟩
  case soa =>
    obtain ⟨primary, _, hprimary, mailbox, _, hmailbox, h⟩ := h
    obtain ⟨_, _, -, _, _, -, _, _, -, _, _, -, _, _, -, rfl, -⟩ := h
    exact List.forall_mem_cons.2
      ⟨⟨_, _, hprimary⟩, List.forall_mem_cons.2 ⟨⟨_, _, hmailbox⟩, hnone⟩⟩
  case mx =>
    obtain ⟨_, _, -, exchange, _, hexchange, rfl, -⟩ := h
    exact List.forall_mem_cons.2 ⟨⟨_, _, hexchange⟩, hnone⟩
  case srv =>
    obtain ⟨_, _, -, _, _, -, _, _, -, target, _, htarget, rfl, -⟩ := h
    exact List.forall_mem_cons.2 ⟨⟨_, _, htarget⟩, hnone⟩
  all_goals
    obtain ⟨_, _, -, rfl, -⟩ := h
    exact hnone

/-- Data that is not understood is as long as declared at most. -/
theorem length_le_of_decode {octets : Octets}
    (h : decode type length reader = .ok (raw octets) after) : octets.length ≤ length.toNat := by
  cases type <;> simp only [decode, Decoder.bind_eq_ok, Decoder.pure_eq_ok] at h
  case any =>
    obtain ⟨_, _, htake, hraw, -⟩ := h
    cases hraw
    exact Decoder.length_le_of_take htake
  case other =>
    obtain ⟨_, _, htake, hraw, -⟩ := h
    cases hraw
    exact Decoder.length_le_of_take htake
  all_goals grind

end RecordData

namespace Record

variable {reader after : Reader} {record : Record}

theorem isRead_of_decode (h : decode reader = .ok record after) :
    ∀ name ∈ record.names, name.IsRead := by
  obtain ⟨_, _, _, _, _, _, hname, -, -, -, -, _, -, -, hdata, -⟩ := decode_eq_ok.1 h
  exact List.forall_mem_cons.2 ⟨⟨_, _, hname⟩, RecordData.isRead_of_decode hdata⟩

/-- **Every record that was read can be written without loss.** -/
theorem isSound_of_decode (h : decode reader = .ok record after) : record.IsSound where
  names name hmem := .inr (isRead_of_decode h name hmem)
  type := by
    obtain ⟨_, code, _, _, _, _, -, -, htype, -⟩ := decode_eq_ok.1 h
    rw [htype]
    exact RecordType.isCanonical_ofCode _
  data := dataFits_of_decode h
  raw octets hraw := by
    obtain ⟨_, _, _, _, _, _, -, -, -, -, -, declared, -, -, hdata, -⟩ := decode_eq_ok.1 h
    rw [hraw] at hdata
    have hlength := RecordData.length_le_of_decode hdata
    have hdeclared := declared.toNat_lt
    omega

end Record

/-! ## Messages that were read -/

/-- A question that can be written without loss, under a name that was read. -/
theorem Question.isSound_of_decode {reader after : Reader} {question : Question}
    (h : decode reader = .ok question after) : question.IsSound ∧ question.name.IsRead := by
  unfold decode at h
  simp only [Decoder.bind_eq_ok, Decoder.pure_eq_ok] at h
  obtain ⟨name, _, hname, code, _, -, _, _, -, rfl, -⟩ := h
  exact ⟨⟨.inr ⟨_, _, hname⟩, RecordType.isCanonical_ofCode code⟩, _, _, hname⟩

namespace Message

variable {reader after : Reader} {message : Message}

/-- There is a question if and only if one is declared, and no more than one can be. -/
theorem decodeQuestion_eq_ok {count : UInt16} {question : Option Question}
    (h : decodeQuestion count reader = .ok question after) :
    (count = if question = none then 0 else 1) ∧
      ∀ asked ∈ question, Question.decode reader = .ok asked after := by
  unfold decodeQuestion at h
  split at h
  · rename_i hzero
    obtain ⟨rfl, -⟩ := Decoder.pure_eq_ok.1 h
    exact ⟨hzero, fun _ hmem => nomatch hmem⟩
  · split at h
    · rename_i hone
      simp only [Decoder.bind_eq_ok, Decoder.pure_eq_ok] at h
      obtain ⟨asked, _, hasked, rfl, rfl⟩ := h
      refine ⟨hone, fun found hmem => ?_⟩
      cases hmem
      exact hasked
    · exact absurd h Decoder.throw_eq_ok

/-- The header of a message that was read counts its entries. -/
theorem isCounted_of_read (h : read reader = .ok message after) : message.IsCounted := by
  obtain ⟨-, _, _, _, _, -, hquestion, hanswers, hauthorities, hadditionals⟩ := read_eq_ok.1 h
  exact ⟨(decodeQuestion_eq_ok hquestion).1, (Decoder.length_of_times hanswers).symm,
    (Decoder.length_of_times hauthorities).symm, (Decoder.length_of_times hadditionals).symm⟩

/-- **Every message that was read can be written without loss.** -/
theorem isSound_of_read (h : read reader = .ok message after) : message.IsSound where
  response := (ResponseCode.fault?_ofCode_eq_none_iff _).1 (read_eq_ok.1 h).1
  question asked hmem := by
    obtain ⟨-, _, _, _, _, -, hquestion, -⟩ := read_eq_ok.1 h
    exact (Question.isSound_of_decode ((decodeQuestion_eq_ok hquestion).2 asked hmem)).1
  records := forall_mem_records_of_read (fun _ _ _ => Record.isSound_of_decode) h

theorem isRead_of_read (h : read reader = .ok message after) :
    ∀ name ∈ message.names, name.IsRead := by
  obtain ⟨-, _, _, _, _, -, hquestion, -⟩ := read_eq_ok.1 h
  intro name hmem
  rcases List.mem_append.1 hmem with hmem | hmem
  · obtain ⟨asked, hasked, rfl⟩ := List.mem_map.1 hmem
    have hmem : asked ∈ message.question := Option.mem_toList.1 hasked
    exact (Question.isSound_of_decode ((decodeQuestion_eq_ok hquestion).2 asked hmem)).2
  · obtain ⟨record, hrecord, hname⟩ := List.mem_flatMap.1 hmem
    exact forall_mem_records_of_read (fun _ _ _ => Record.isRead_of_decode) h record hrecord name
      hname

/-! ## Messages that are read again -/

/-- What every message that comes out of a datagram is like. -/
structure IsWellFormed (message : Message) : Prop where
  /-- There is at most one question, and the header counts all entries. -/
  counted : message.IsCounted
  /-- The response code leaves the body a meaning. -/
  response : message.header.flags.responseCode = 0 ∨ message.header.flags.responseCode = 3 ∨
    message.header.flags.responseCode = 5
  /-- The type of the question is the one that its code stands for. -/
  question : ∀ question ∈ message.question, question.type.IsCanonical
  /-- The type of each record is the one that its code stands for. -/
  types : ∀ record ∈ message.records, record.type.IsCanonical
  /-- The data of each record is of the kind that its type calls for. -/
  data : ∀ record ∈ message.records, record.DataFits
  /-- The text of each name is a name that could have been typed. -/
  names : ∀ name ∈ message.names, Name.parse name.text = .ok name

theorem isWellFormed_of_read (h : read reader = .ok message after) : message.IsWellFormed where
  counted := isCounted_of_read h
  response := (isSound_of_read h).response
  question asked hmem := ((isSound_of_read h).question asked hmem).type
  types record hmem := ((isSound_of_read h).records record hmem).type
  data record hmem := ((isSound_of_read h).records record hmem).data
  names name hmem := by
    obtain ⟨_, _, hname⟩ := isRead_of_read h name hmem
    exact (Name.isValid_of_decode hname).parse_text

/-- **A decoded message is read again from its encoding.**  Whatever octets a message was read from,
it is well formed, and its own encoding is read to the last octet and gives the very same message,
although the names in it are written out in full. -/
theorem decode_encode_of_decode (octets : Octets) (message : Message)
    (h : decode octets = .ok message) :
    message.IsWellFormed ∧
    read (.ofOctets message.encode) =
      .ok message ⟨message.encode.toArray, message.encode.length⟩ ∧
    decode message.encode = .ok message := by
  obtain ⟨after, hread⟩ := read_of_decode h
  have hcanonical : message.mapNames Name.canonical = message := by
    refine mapNames_eq_self fun name hmem => ?_
    obtain ⟨_, _, hname⟩ := isRead_of_read hread name hmem
    exact Name.canonical_of_decode hname
  have hagain := reads_encode (isCounted_of_read hread) (isSound_of_read hread)
    (.ofOctets message.encode) (List.prefix_refl message.encode)
  rw [hcanonical] at hagain
  refine ⟨isWellFormed_of_read hread, ?_, ?_⟩
  · rw [hagain, Reader.advance]
    simp [Reader.ofOctets]
  · rw [decode, Decoder.run, hagain]

/-- A response about a mail exchange: the owner and the exchange are compressed, the label of the
exchange holds a dot, and two more octets follow the last record. -/
def mailDatagram : Octets :=
  [0, 7, 0x84, 0, 0, 1, 0, 1, 0, 0, 0, 0,
    3, 0x63, 0x6f, 0x6d, 0, 0, 15, 0, 1,
    0xc0, 12, 0, 15, 0, 1, 0, 0, 1, 0x2c, 0, 8, 0, 10, 3, 0x61, 0x2e, 0x62, 0xc0, 12,
    0xff, 0xff]

/-- The message in the datagram. -/
def mailResponse : Message where
  header := ⟨7, ⟨0x8400⟩, 1, 1, 0, 0⟩
  question := some ⟨⟨"com"⟩, .mx, internetClass⟩
  answers := [⟨⟨"com"⟩, .mx, internetClass, 300, .mx 10 ⟨"a\\046b.com"⟩⟩]
  authorities := []
  additionals := []

/-- The encoding is longer than the datagram was, and the message is the same. -/
theorem decode_encode_of_decode_mailResponse :
    decode mailDatagram = .ok mailResponse ∧ mailResponse.encode.length = 47 ∧
      mailResponse.IsWellFormed ∧ decode mailResponse.encode = .ok mailResponse := by
  have hdecode : decode mailDatagram = .ok mailResponse :=
    eq_ok_of_toOption (by decide +kernel)
  obtain ⟨hformed, -, hagain⟩ := decode_encode_of_decode mailDatagram mailResponse hdecode
  exact ⟨hdecode, by decide +kernel, hformed, hagain⟩

end Message

end IterativeDns
