import IterativeDns.Proofs.Decoding
import IterativeDns.Proofs.Invariant

/-!
# What a resolver remembers

The memory of a resolver holds the records of exactly the messages that answered a request of its
own.  This file takes one question to one server apart, from the attempts to send it up to the
response that is accepted, and shows that nothing else is ever learned.

* `Memory.Recalls` — the cache and the clock of a memory agree with a history.
* `Lookup.ensures_ask` — a question that fails teaches nothing, and one that succeeds brings the
  message that came of what was sent last.
* `Lookup.invariant_recalls` — a whole lookup keeps memory and history in agreement.
-/

namespace IterativeDns

/-! ## Messages that answer a request -/

theorem Message.mismatch?_eq_none_iff {id : UInt16} {message : Message} :
    message.mismatch? id = none ↔ message.header.flags.isResponse = true ∧ message.id = id := by
  unfold mismatch?
  by_cases hresponse : message.header.flags.isResponse = true
  · by_cases hid : message.id = id <;> simp [hresponse, hid]
  · simp [hresponse]

theorem Message.accept_eq_ok {id : UInt16} {payload : Octets} {message : Message} :
    Message.accept id payload = .ok message ↔
      Message.decode payload = .ok message ∧ message.header.flags.isResponse = true ∧
        message.id = id := by
  rw [← Message.mismatch?_eq_none_iff, Message.accept]
  cases Message.decode payload with
  | error fault => simp
  | ok decoded =>
    simp only [Except.ok.injEq]
    constructor
    · intro h
      split at h
      · cases h
      · rename_i hnone
        cases h
        exact ⟨rfl, hnone⟩
    · rintro ⟨rfl, hnone⟩
      rw [hnone]

namespace Request

variable {request : Request} {delivery : Delivery}

/-- A message answers a request exactly if its octets came in time, hold the whole of it, and it is
a response with the identifier of the request. -/
theorem answer?_eq_some {message : Message} :
    request.answer? delivery = some message ↔
      ∃ payload, (delivery.awaited request).2 = .datagram payload ∧
        Message.decode payload = .ok message ∧ message.header.flags.isResponse = true ∧
        message.id = request.id := by
  unfold answer?
  cases hreply : (delivery.awaited request).2 with
  | failure error => simp
  | datagram payload =>
    simp only [Reply.datagram.injEq]
    cases hdecode : Message.decode payload with
    | error fault => simp [hdecode]
    | ok decoded =>
      constructor
      · intro h
        obtain ⟨hgood, hsame⟩ := Option.ite_none_right_eq_some.1 h
        cases hsame
        exact ⟨payload, rfl, hdecode, hgood⟩
      · rintro ⟨_, rfl, hdecode', hgood⟩
        cases hdecode.symm.trans hdecode'
        exact if_pos hgood

theorem answer?_of_failure {error : TransportError}
    (h : (delivery.awaited request).2 = .failure error) : request.answer? delivery = none := by
  simp [answer?, h]

/-- What is accepted for the identifier of a request answers the request. -/
theorem answer?_of_datagram {payload : Octets}
    (h : (delivery.awaited request).2 = .datagram payload) :
    request.answer? delivery = (Message.accept request.id payload).toOption := by
  cases haccept : Message.accept request.id payload with
  | ok message => exact answer?_eq_some.2 ⟨payload, h, Message.accept_eq_ok.1 haccept⟩
  | error fault =>
    refine Option.eq_none_iff_forall_ne_some.2 fun message hanswer => ?_
    obtain ⟨payload', hreply, hgood⟩ := answer?_eq_some.1 hanswer
    cases h.symm.trans hreply
    cases haccept.symm.trans (Message.accept_eq_ok.2 hgood)

end Request

theorem Occurrence.answer?_eq_some {occurrence : Occurrence} {message : Message} :
    occurrence.answer? = some message ↔
      ∃ request delivery, occurrence = .entry (.exchanged request delivery) ∧
        request.answer? delivery = some message := by
  constructor
  · intro h
    cases occurrence with
    | idle milliseconds => cases h
    | entry entry =>
      cases entry with
      | exchanged request delivery => exact ⟨request, delivery, rfl, h⟩
      | drew id => cases h
      | noted step => cases h
  · rintro ⟨request, delivery, rfl, h⟩
    exact h

namespace History

/-- The messages that arrived are the answers of what happened. -/
theorem exists_mem_arrivals_iff {start : Instant} {past : History} {message : Message} :
    (∃ moment, ⟨message, moment⟩ ∈ past.arrivals start) ↔
      ∃ occurrence ∈ past, occurrence.answer? = some message := by
  induction past generalizing start with
  | nil => simp
  | cons first rest ih =>
    simp only [arrivals, List.mem_append, exists_or, ih, List.mem_cons, Option.mem_toList,
      Option.map_eq_some_iff, Arrival.mk.injEq]
    constructor
    · rintro (⟨moment, answer, hanswer, rfl, rfl⟩ | ⟨occurrence, hmem, hanswer⟩)
      · exact ⟨first, .inl rfl, hanswer⟩
      · exact ⟨occurrence, .inr hmem, hanswer⟩
    · rintro ⟨occurrence, rfl | hmem, hanswer⟩
      · exact .inl ⟨_, message, hanswer, rfl, rfl⟩
      · exact .inr ⟨occurrence, hmem, hanswer⟩

/-- Every message that arrives was read from a datagram. -/
theorem decode_of_mem_arrivals {start : Instant} {past : History} {arrival : Arrival}
    (h : arrival ∈ past.arrivals start) :
    ∃ payload, Message.decode payload = .ok arrival.message := by
  obtain ⟨occurrence, -, hanswer⟩ := exists_mem_arrivals_iff.1 ⟨arrival.moment, h⟩
  obtain ⟨request, delivery, rfl, hanswer⟩ := Occurrence.answer?_eq_some.1 hanswer
  obtain ⟨payload, -, hdecode, -⟩ := Request.answer?_eq_some.1 hanswer
  exact ⟨payload, hdecode⟩

end History

/-! ## A memory that agrees with a history -/

/-- A memory holds what a history, which began with another memory, should have left in it. -/
structure Memory.Recalls (start memory : Memory) (past : History) : Prop where
  /-- The cache holds the records of the messages that arrived, and those it held before. -/
  cache_eq : memory.cache = start.cache.learned (past.arrivals start.now)
  /-- All the time that passed has been counted. -/
  now_eq : memory.now = start.now + past.elapsed

namespace Memory.Recalls

variable {start memory : Memory} {past : History}

theorem refl (start : Memory) : start.Recalls start [] := ⟨rfl, by simp⟩

/-- Something happens by which no message arrives. -/
theorem missed (h : start.Recalls memory past) (occurrence : Occurrence)
    (hnone : occurrence.answer? = none) :
    start.Recalls (memory.wait occurrence.elapsed) (past ++ [occurrence]) where
  cache_eq := by
    rw [History.arrivals_append, History.arrivals_singleton, hnone, Option.map_none,
      Option.toList_none, List.append_nil]
    exact h.cache_eq
  now_eq := by
    rw [History.elapsed_append, History.elapsed_singleton]
    simp [wait, h.now_eq, Int.add_assoc]

/-- A message arrives and is learned. -/
theorem arrived (h : start.Recalls memory past) (occurrence : Occurrence) {message : Message}
    (hsome : occurrence.answer? = some message) :
    start.Recalls ((memory.wait occurrence.elapsed).learn message) (past ++ [occurrence]) where
  cache_eq := by
    rw [History.arrivals_append, History.arrivals_singleton, hsome, Cache.learned,
      List.foldl_append]
    show (memory.cache).insertAll message.records (memory.now + occurrence.elapsed) = _
    rw [h.cache_eq, h.now_eq]
    rfl
  now_eq := by
    rw [History.elapsed_append, History.elapsed_singleton]
    simp [wait, learn, h.now_eq, Int.add_assoc]

/-- Only the cache and the clock matter. -/
theorem congr {memory' : Memory} (h : start.Recalls memory past)
    (hcache : memory'.cache = memory.cache) (hnow : memory'.now = memory.now) :
    start.Recalls memory' past :=
  ⟨hcache.trans h.cache_eq, hnow.trans h.now_eq⟩

/-- Something takes no time and brings no message. -/
theorem unmoved (h : start.Recalls memory past) (occurrence : Occurrence)
    (hnone : occurrence.answer? = none) (hzero : occurrence.elapsed = 0) :
    start.Recalls memory (past ++ [occurrence]) :=
  (h.missed occurrence hnone).congr rfl (by simp [hzero, wait])

end Memory.Recalls

/-! ## One question to one server -/

/-- The request that sends octets to a server. -/
def Config.request (config : Config) (server : IpAddress) (payload : Octets) : Request :=
  ⟨config.endpoint server, payload, config.timeout⟩

/-- The datagram of a query carries its identifier in front. -/
theorem Request.id_of_payload {request : Request} {id : UInt16} {query : Query}
    (h : request.payload = (Message.ofQuery id query).encode) : request.id = id := by
  have htake : request.payload.take 2 = Octets.ofUInt16 id := by
    rw [h, Message.encode, Header.encode, List.flatMap_cons, List.append_assoc, List.append_assoc]
    exact List.take_left' (Octets.length_ofUInt16 id)
  rw [Request.id, htake, Octets.toNat_ofUInt16, UInt16.ofNat_toNat]

namespace Lookup

variable {start memory : Memory} {past : History} {config : Config}

/-- A report changes neither what is known nor the time. -/
theorem ensures_announce (event : TraceEvent) :
    (announce event).Ensures memory past fun _ memory' past' =>
      memory'.cache = memory.cache ∧ memory'.now = memory.now ∧
        (past' = past ∨ past' = past ++ [.entry (.noted (.traced event))]) := by
  refine Ensures.get_bind ?_
  split
  · exact Ensures.note_bind (Ensures.modify ⟨rfl, rfl, .inr rfl⟩)
  · exact Ensures.pure ⟨rfl, rfl, .inl rfl⟩

/-- The time that a request takes is spent on waiting for its reply. -/
theorem ensures_exchange (server : IpAddress) (payload : Octets) :
    (exchange config server payload).Ensures memory past fun reply memory' past' =>
      ∃ delivery, reply = (delivery.awaited (config.request server payload)).2 ∧
        memory' = memory.wait (delivery.awaited (config.request server payload)).1 ∧
        past' = past ++ [.entry (.exchanged (config.request server payload) delivery)] := by
  intro transcript reply memory' hyields
  cases hyields with
  | exchange delivery hyields =>
    cases hyields
    exact ⟨delivery, rfl, rfl, rfl⟩

/-- Attempts that fail are remembered as time that passed; the one that brings a datagram is the
last. -/
theorem ensures_sendUntilReply (query : Query) (server : IpAddress) (id : UInt16)
    (payload : Octets) (attempt attempts : Nat) (h : start.Recalls memory past) :
    (sendUntilReply config query server id payload attempt attempts).Ensures memory past
      fun result memory' past' =>
        match result with
        | none => start.Recalls memory' past'
        | some octets =>
          ∃ memory₁ before delivery,
            start.Recalls memory₁ before ∧
            (delivery.awaited (config.request server payload)).2 = .datagram octets ∧
            memory' = memory₁.wait (delivery.awaited (config.request server payload)).1 ∧
            past' = before ++ [.entry (.exchanged (config.request server payload) delivery)] := by
  induction attempts generalizing memory past attempt with
  | zero => exact Ensures.pure h
  | succ attempts ih =>
    refine (ensures_announce _).bind ?_
    rintro - memory₁ before ⟨hcache, hnow, hbefore⟩
    have hbefore : start.Recalls memory₁ before := by
      rcases hbefore with rfl | rfl
      · exact h.congr hcache hnow
      · exact (h.congr hcache hnow).unmoved _ rfl rfl
    refine (ensures_exchange server payload).bind ?_
    rintro _ _ _ ⟨delivery, rfl, rfl, rfl⟩
    cases hreply : (delivery.awaited (config.request server payload)).2 with
    | datagram octets =>
      exact Ensures.pure ⟨memory₁, before, delivery, hbefore, hreply, rfl, rfl⟩
    | failure error =>
      exact ih (attempt + 1) (hbefore.missed (.entry (.exchanged _ delivery))
        (Request.answer?_of_failure hreply))

/-- **What one question teaches.**  If it fails, nothing; otherwise the message that came of what
was sent last. -/
theorem ensures_ask (query : Query) (server : IpAddress) (h : start.Recalls memory past) :
    (ask config query server).Ensures memory past fun result memory' past' =>
      match result with
      | .error _ => start.Recalls memory' past'
      | .ok message =>
        start.Recalls (memory'.learn message) past' ∧ past'.latest? = some message := by
  refine Ensures.drawId_bind fun id => ?_
  have hdrew := h.unmoved (.entry (.drew id)) rfl rfl
  refine (ensures_sendUntilReply query server id _ 0 (config.maxRetries + 1) hdrew).bind ?_
  intro result memory' past' hsent
  cases result with
  | none => exact Ensures.pure hsent
  | some octets =>
    obtain ⟨memory₁, before, delivery, hbefore, hreply, rfl, rfl⟩ := hsent
    have hid : (config.request server (Message.ofQuery id query).encode).id = id :=
      Request.id_of_payload rfl
    generalize config.request server (Message.ofQuery id query).encode = request at *
    have hanswer : request.answer? delivery = (Message.accept id octets).toOption := by
      rw [← hid]
      exact Request.answer?_of_datagram hreply
    dsimp only
    cases haccept : Message.accept id octets with
    | error fault =>
      rw [haccept] at hanswer
      exact Ensures.pure (hbefore.missed (.entry (.exchanged request delivery)) hanswer)
    | ok message =>
      rw [haccept] at hanswer
      have hlearned := (hbefore.arrived (.entry (.exchanged request delivery)) hanswer).unmoved
        (.entry (.noted (.accepted query server message))) rfl rfl
      have hlatest : History.latest? (before ++ [.entry (.exchanged request delivery)] ++
          [.entry (.noted (.accepted query server message))]) = some message := by
        rw [History.latest?_append_of_forall (by simp [Occurrence.isExchange]),
          History.latest?_append_exchanged]
        exact hanswer
      refine Ensures.note_bind ((ensures_announce _).bind ?_)
      rintro - memory' past' ⟨hcache, hnow, hpast⟩
      have hsame : (memory'.learn message).cache =
          ((memory₁.wait (delivery.awaited request).1).learn message).cache := by
        simp only [Memory.learn, hcache, hnow]
      rcases hpast with rfl | rfl
      · exact Ensures.pure ⟨hlearned.congr hsame hnow, hlatest⟩
      · refine Ensures.pure ⟨(hlearned.congr hsame hnow).unmoved _ rfl rfl, ?_⟩
        rwa [History.latest?_append_of_forall (by simp [Occurrence.isExchange])]

/-! ## Whole lookups -/

/-- **A lookup keeps memory and history in agreement,** whatever the network does. -/
theorem invariant_recalls (config : Config) (start : Memory) :
    Invariant config fun memory past => start.Recalls memory past where
  noted _ _ step h := h.unmoved (.entry (.noted step)) rfl rfl
  delivered _ _ _ h := h.congr rfl rfl
  asked query server memory past h := by
    refine (ensures_ask query server h).mono ?_
    intro result memory' past' hasked
    cases result with
    | error error => exact hasked
    | ok message => exact hasked.1

end Lookup

end IterativeDns
