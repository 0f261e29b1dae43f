import IterativeDns.Proofs.Reencoding

/-!
# Messages that go on, and messages that are cut off

A datagram may hold more than a message, or less.  This file shows that a message says itself where
it ends: nothing that follows changes what is read, and nothing less than the whole of it is read at
all.  Only the header is special, because it is filled up with zeros when it is cut short.

* `Decoder.Stable` — a decoder reads from a longer message what it reads from a shorter one, with
  one rule for each way in which decoders are made.
* `Name.Expands.extend` — a name in a message is the same name in every longer one, wherever its
  pointers lead.
* `Message.stable_read` — reading a message is stable, if there is a whole header.
* `Message.read_self_delimiting` — **what follows a message does not matter, and a message that is
  cut off is not read.**
-/

namespace IterativeDns

/-! ## Longer messages -/

namespace Reader

/-- The reader at the same position of a longer message. -/
def extend (more : Octets) (reader : Reader) : Reader :=
  { reader with buffer := reader.buffer ++ more.toArray }

variable {reader : Reader} {more : Octets}

@[simp] theorem position_extend : (reader.extend more).position = reader.position := rfl

@[simp] theorem length_extend : (reader.extend more).length = reader.length + more.length := by
  simp [length, extend]

theorem remaining_le_extend : reader.remaining ≤ (reader.extend more).remaining := by
  simp only [remaining, length_extend, position_extend]
  omega

/-- Octets that are there stay where they are. -/
theorem ahead_extend {count : Nat} (h : count ≤ reader.remaining) :
    (reader.extend more).ahead count = reader.ahead count := by
  by_cases hnone : count = 0
  · simp [hnone, ahead]
  · have hthere : reader.position + count ≤ reader.buffer.size := by
      simp only [remaining, length] at h
      omega
    simp [ahead, extend, Array.extract_append, Nat.sub_eq_zero_of_le hthere]

theorem extend_ofOctets (octets more : Octets) :
    (ofOctets octets).extend more = ofOctets (octets ++ more) := by
  simp [ofOctets, extend]

end Reader

/-! ## Decoders that do not mind what follows -/

namespace Decoder

variable {α β : Type} {step : Decoder α} {rest : α → Decoder β} {room : Nat}

/-- From a position with some room after it, the decoder moves to one inside the message, and it
reads the same value from every longer message and moves to the same position of it. -/
def Stable (room : Nat) (step : Decoder α) : Prop :=
  ∀ ⦃reader : Reader⦄ ⦃value : α⦄ ⦃after : Reader⦄, reader.position + room ≤ reader.length →
    step reader = .ok value after →
    (after.buffer = reader.buffer ∧ after.position ≤ reader.length) ∧
      ∀ more, step (reader.extend more) = .ok value (after.extend more)

namespace Stable

theorem pure (value : α) : Stable 0 (Pure.pure value) := by
  intro reader value' after hroom h
  obtain ⟨rfl, rfl⟩ := pure_eq_ok.1 h
  exact ⟨⟨rfl, hroom⟩, fun _ => rfl⟩

theorem throw (fault : WireError) : Stable 0 (MonadExcept.throw fault : Decoder α) :=
  fun _ _ _ _ h => absurd h throw_eq_ok

/-- What would come after a fault does not count. -/
theorem throw_bind (fault : WireError) (rest : α → Decoder β) :
    Stable room (MonadExcept.throw fault >>= rest) := by
  intro reader value after _ h
  simp [bind_eq_ok] at h

/-- A first part is stable, and so is the rest. -/
theorem bind (hstep : step.Stable room) (hrest : ∀ value, (rest value).Stable 0) :
    (step >>= rest).Stable room := by
  intro reader result after hroom h
  obtain ⟨value, between, hvalue, h⟩ := bind_eq_ok.1 h
  obtain ⟨⟨hbuffer, hinside⟩, hlonger⟩ := hstep hroom hvalue
  have hlength : between.length = reader.length := congrArg Array.size hbuffer
  obtain ⟨⟨hbuffer', hinside'⟩, hlonger'⟩ := hrest value (by omega) h
  refine ⟨⟨hbuffer'.trans hbuffer, by omega⟩, fun more => ?_⟩
  exact bind_eq_ok.2 ⟨value, _, hlonger more, hlonger' more⟩

theorem take (count : Nat) : Stable 0 (Decoder.take count) := by
  intro reader octets after hroom h
  by_cases hthere : count ≤ reader.remaining
  · rw [take_of_le hthere] at h
    cases h
    refine ⟨⟨rfl, ?_⟩, fun more => ?_⟩
    · show reader.position + count ≤ reader.length
      rw [Reader.remaining] at hthere
      omega
    · rw [take_of_le (Nat.le_trans hthere Reader.remaining_le_extend), Reader.ahead_extend hthere]
      rfl
  · rw [take_of_lt (Nat.not_le.1 hthere)] at h
    cases h

theorem uint16 : Stable 0 Decoder.uint16 := (take 2).bind fun _ => pure _

theorem uint32 : Stable 0 Decoder.uint32 := (take 4).bind fun _ => pure _

/-- Where nothing has to be filled up, a word is read as everywhere else. -/
theorem uint16Padded_eq {reader : Reader} (h : 2 ≤ reader.remaining) :
    Decoder.uint16Padded reader =
      .ok (UInt16.ofNat (Octets.toNat (reader.ahead 2))) (reader.advance 2) := by
  have htake : Decoder.takePadded 2 reader = .ok (reader.ahead 2) (reader.advance 2) := by
    simp [Decoder.takePadded, Nat.min_eq_left h, Reader.advance]
  exact bind_eq_ok.2 ⟨_, _, htake, rfl⟩

/-- A word that may be filled up needs room of its own. -/
theorem uint16Padded_bind {rest : UInt16 → Decoder β} (hrest : ∀ word, (rest word).Stable room) :
    (Decoder.uint16Padded >>= rest).Stable (room + 2) := by
  intro reader result after hroom h
  have hthere : 2 ≤ reader.remaining := by
    rw [Reader.remaining]
    omega
  obtain ⟨word, between, hword, h⟩ := bind_eq_ok.1 h
  rw [uint16Padded_eq hthere] at hword
  cases hword
  have hroom' : (reader.advance 2).position + room ≤ (reader.advance 2).length := by
    show reader.position + 2 + room ≤ reader.length
    omega
  obtain ⟨hinside, hlonger⟩ := hrest _ hroom' h
  refine ⟨hinside, fun more => bind_eq_ok.2 ⟨_, _, ?_, hlonger more⟩⟩
  rw [uint16Padded_eq (Nat.le_trans hthere Reader.remaining_le_extend), Reader.ahead_extend hthere]
  rfl

theorem times (hstep : step.Stable 0) (count : Nat) : Stable 0 (Decoder.times step count) := by
  induction count with
  | zero => exact pure []
  | succ count ih => exact hstep.bind fun _ => ih.bind fun _ => pure _

end Stable

end Decoder

/-! ## Names -/

namespace Name

variable {buffer : Array UInt8} {offset resume target : Nat} {label : Octets}
  {labels : List Octets}

theorem getElem?_append_of_eq_some {octet : UInt8} (more : Array UInt8)
    (h : buffer[offset]? = some octet) : (buffer ++ more)[offset]? = some octet := by
  rw [Array.getElem?_append_left (Array.getElem?_eq_some_iff.1 h).1, h]

theorem LabelAt.extend (h : LabelAt buffer offset label) (more : Array UInt8) :
    LabelAt (buffer ++ more) offset label where
  length_eq := by
    obtain ⟨length, hlength, heq⟩ := h.getElem?
    rw [getElem?_append_of_eq_some more hlength, Option.map_some, heq]
  pos := h.pos
  le := h.le
  octets_eq := by
    rw [Array.extract_append, Nat.sub_eq_zero_of_le h.inside, Array.extract_zero,
      Array.append_empty]
    exact h.octets_eq

theorem PointerAt.extend (h : PointerAt buffer offset target) (more : Array UInt8) :
    PointerAt (buffer ++ more) offset target := by
  obtain ⟨first, second, hfirst, hmark, hsecond, htarget⟩ := h
  exact ⟨first, second, getElem?_append_of_eq_some more hfirst, hmark,
    getElem?_append_of_eq_some more hsecond, htarget⟩

/-- A name in a message is the same name in every longer one: by induction on the rules. -/
theorem Expands.extend (h : Expands buffer offset labels resume) (more : Array UInt8) :
    Expands (buffer ++ more) offset labels resume := by
  induction h with
  | root h => exact .root (getElem?_append_of_eq_some more h)
  | label h _ ih => exact .label (h.extend more) ih
  | pointer h _ ih => exact .pointer (h.extend more) ih

theorem stable_decode : Decoder.Stable 0 decode := by
  intro reader name after _ h
  obtain ⟨labels, resume, hexpands, hlength, rfl, rfl⟩ := decode_eq_ok_iff.1 h
  refine ⟨⟨rfl, hexpands.resume_bounds.2⟩, fun more => ?_⟩
  exact decode_eq_ok_iff.2 ⟨labels, resume, hexpands.extend more.toArray, hlength, rfl, rfl⟩

end Name

/-! ## Records -/

theorem RecordData.stable_decode (type : RecordType) (length : UInt16) :
    Decoder.Stable 0 (RecordData.decode type length) := by
  cases type with
  | a => exact (Decoder.Stable.take 4).bind fun _ => .pure _
  | aaaa => exact (Decoder.Stable.take 16).bind fun _ => .pure _
  | ns => exact Name.stable_decode.bind fun _ => .pure _
  | cname => exact Name.stable_decode.bind fun _ => .pure _
  | soa =>
    refine Name.stable_decode.bind fun _ => Name.stable_decode.bind fun _ => ?_
    refine Decoder.Stable.uint32.bind fun _ => Decoder.Stable.uint32.bind fun _ => ?_
    refine Decoder.Stable.uint32.bind fun _ => Decoder.Stable.uint32.bind fun _ => ?_
    exact Decoder.Stable.uint32.bind fun _ => .pure _
  | mx => exact Decoder.Stable.uint16.bind fun _ => Name.stable_decode.bind fun _ => .pure _
  | srv =>
    refine Decoder.Stable.uint16.bind fun _ => Decoder.Stable.uint16.bind fun _ => ?_
    exact Decoder.Stable.uint16.bind fun _ => Name.stable_decode.bind fun _ => .pure _
  | any => exact (Decoder.Stable.take _).bind fun _ => .pure _
  | other code => exact (Decoder.Stable.take _).bind fun _ => .pure _

theorem Record.stable_decode : Decoder.Stable 0 decode := by
  unfold decode
  refine Name.stable_decode.bind fun name => Decoder.Stable.uint16.bind fun code => ?_
  refine Decoder.Stable.uint16.bind fun classCode => Decoder.Stable.uint32.bind fun ttl => ?_
  refine Decoder.Stable.uint16.bind fun declared => ?_
  -- the number of octets to the end of the message is looked at here, and may only grow
  intro reader record after hposition h
  simp only [Decoder.bind_eq_ok, Decoder.check_eq_ok, Decoder.get_eq_ok] at h ⊢
  obtain ⟨_, _, ⟨rfl, rfl⟩, hroom, data, _, hdata, _, _, ⟨rfl, rfl⟩, hconsumed, h⟩ := h
  obtain ⟨hinside, hlonger⟩ := RecordData.stable_decode _ declared hposition hdata
  obtain ⟨rfl, rfl⟩ := Decoder.pure_eq_ok.1 h
  refine ⟨hinside, fun more => ?_⟩
  have hroom' : ¬ (reader.extend more).remaining < declared.toNat :=
    fun hshort => hroom (Nat.lt_of_le_of_lt Reader.remaining_le_extend hshort)
  exact ⟨_, _, ⟨rfl, rfl⟩, hroom', data, _, hlonger more, _, _, ⟨rfl, rfl⟩, hconsumed, rfl⟩

/-! ## Messages -/

theorem Header.stable_decode : Decoder.Stable Header.length decode := by
  unfold decode
  refine Decoder.Stable.uint16Padded_bind fun _ => Decoder.Stable.uint16Padded_bind fun _ => ?_
  refine Decoder.Stable.uint16Padded_bind fun _ => Decoder.Stable.uint16Padded_bind fun _ => ?_
  refine Decoder.Stable.uint16Padded_bind fun _ => Decoder.Stable.uint16Padded_bind fun _ => ?_
  exact .pure _

theorem Question.stable_decode : Decoder.Stable 0 decode := by
  refine Name.stable_decode.bind fun _ => Decoder.Stable.uint16.bind fun _ => ?_
  exact Decoder.Stable.uint16.bind fun _ => .pure _

namespace Message

variable {octets : Octets} {message : Message} {after : Reader}

theorem stable_decodeQuestion (count : UInt16) : Decoder.Stable 0 (decodeQuestion count) := by
  unfold decodeQuestion
  by_cases hzero : count = 0
  · rw [if_pos hzero]
    exact .pure none
  · by_cases hone : count = 1
    · rw [if_neg hzero, if_pos hone]
      exact Question.stable_decode.bind fun _ => .pure _
    · rw [if_neg hzero, if_neg hone]
      exact .throw _

/-- **Reading a message is stable,** if there is a whole header. -/
theorem stable_read : Decoder.Stable Header.length read := by
  unfold read
  refine Header.stable_decode.bind fun header => ?_
  have hrecords := Decoder.Stable.times Record.stable_decode
  split
  · exact .throw_bind _ _
  · refine (stable_decodeQuestion _).bind fun _ => (hrecords _).bind fun _ => ?_
    exact (hrecords _).bind fun _ => (hrecords _).bind fun _ => .pure _

/-- What follows a message with a whole header does not change what is read. -/
theorem read_append (hlength : Header.length ≤ octets.length)
    (hread : read (.ofOctets octets) = .ok message after) (more : Octets) :
    after.position ≤ octets.length ∧
      read (.ofOctets (octets ++ more)) =
        .ok message ⟨(octets ++ more).toArray, after.position⟩ := by
  have hstart : (Reader.ofOctets octets).length = octets.length := List.size_toArray
  have hroom : (Reader.ofOctets octets).position + Header.length ≤
      (Reader.ofOctets octets).length := by
    rw [hstart, Reader.ofOctets, Nat.zero_add]
    exact hlength
  obtain ⟨⟨hbuffer, hinside⟩, hlonger⟩ := stable_read hroom hread
  have hagain := hlonger more
  rw [Reader.extend_ofOctets, Reader.extend, hbuffer, Reader.ofOctets,
    List.append_toArray] at hagain
  exact ⟨hstart ▸ hinside, hagain⟩

/-- **A message says itself where it ends.**  If a message is read from octets with a whole header,
then it is read from all octets that begin with these, whatever follows them, and the reader ends up
at the same position; and if the octets are cut off anywhere between the header and that position,
no message at all is read from them. -/
theorem read_self_delimiting (octets : Octets) (message : Message) (after : Reader)
    (hlength : 12 ≤ octets.length) (hread : read (.ofOctets octets) = .ok message after) :
    (∀ more, read (.ofOctets (octets ++ more)) =
        .ok message ⟨(octets ++ more).toArray, after.position⟩ ∧
      decode (octets ++ more) = .ok message) ∧
    ∀ count, 12 ≤ count → count < after.position →
      ∃ fault, decode (octets.take count) = .error fault := by
  constructor
  · intro more
    obtain ⟨-, hagain⟩ := read_append hlength hread more
    exact ⟨hagain, by rw [decode, Decoder.run, hagain]⟩
  · intro count hheader hcut
    cases hdecode : decode (octets.take count) with
    | error fault => exact ⟨fault, rfl⟩
    | ok shorter =>
      -- what is read from the front is read from the whole as well, but ends before the cut
      obtain ⟨before, hfront⟩ := read_of_decode hdecode
      have hheader' : Header.length ≤ (octets.take count).length := by
        rw [List.length_take, Header.length]
        omega
      obtain ⟨hbefore, hwhole⟩ := read_append hheader' hfront (octets.drop count)
      rw [List.take_append_drop, hread] at hwhole
      cases hwhole
      have hcut : count < before.position := hcut
      rw [List.length_take] at hbefore
      omega

/-- The position after a message can be computed together with it. -/
theorem read_of_run
    (h : (Decoder.run (do return (← read, ← get)) octets).toOption = some (message, after)) :
    read (.ofOctets octets) = .ok message after := by
  have hrun := eq_ok_of_toOption h
  unfold Decoder.run at hrun
  split at hrun
  · rename_i hread
    cases hrun
    simp only [Decoder.bind_eq_ok, Decoder.pure_eq_ok, Decoder.get_eq_ok] at hread
    obtain ⟨_, _, hread, _, _, ⟨rfl, rfl⟩, hpair, -⟩ := hread
    cases hpair
    exact hread
  · cases hrun

/-- The octets after the last record may be others, but none of those before may be missing. -/
theorem read_self_delimiting_mailDatagram :
    12 ≤ mailDatagram.length ∧
      read (.ofOctets mailDatagram) = .ok mailResponse ⟨mailDatagram.toArray, 41⟩ ∧
      decode (mailDatagram ++ [0xc0, 12]) = .ok mailResponse ∧
      ∃ fault, decode (mailDatagram.take 40) = .error fault := by
  have hlength : 12 ≤ mailDatagram.length := by decide
  have hread : read (.ofOctets mailDatagram) = .ok mailResponse ⟨mailDatagram.toArray, 41⟩ :=
    read_of_run (by decide +kernel)
  obtain ⟨hlonger, hshorter⟩ := read_self_delimiting mailDatagram mailResponse _ hlength hread
  exact ⟨hlength, hread, (hlonger [0xc0, 12]).2, hshorter 40 (by decide) (by decide)⟩

end Message

end IterativeDns
