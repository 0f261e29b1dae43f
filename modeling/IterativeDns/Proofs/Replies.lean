import IterativeDns.Proofs.Lifetime

/-!
# What comes back

The attempts to send a query end with the first datagram that comes back in time, and a lookup that
needs no more than one visit goes as that datagram says.  This file keeps track of the datagrams.

* `History.replies` — the datagrams that came back in time, each with the request that it came for.
* `Lookup.replies_ask` — one question brings back at most one datagram, and what comes of the
  question is what accepting the datagram comes to.
* `Lookup.Settled.ensures_whole` — what the first visit of a lookup ensures, the lookup ensures.
-/

namespace IterativeDns

/-! ## Datagrams that come back -/

/-- The octets of a reply. -/
def Reply.octets? : Reply → Option Octets
  | datagram payload => some payload
  | failure _ => none

/-- The datagram that comes back in time, with the request that it comes for. -/
def Occurrence.reply? : Occurrence → Option (Request × Octets)
  | .entry (.exchanged request delivery) =>
    (delivery.awaited request).2.octets?.map fun payload => (request, payload)
  | _ => none

namespace History

/-- The datagrams that came back in time, the oldest first. -/
def replies (past : History) : List (Request × Octets) := past.filterMap Occurrence.reply?

@[simp] theorem replies_append (past next : History) :
    replies (past ++ next) = past.replies ++ next.replies :=
  List.filterMap_append

@[simp] theorem replies_noted (step : Step) : replies [.entry (.noted step)] = [] := rfl

@[simp] theorem replies_drew (id : UInt16) : replies [.entry (.drew id)] = [] := rfl

/-- What came back first stays the first. -/
theorem head?_replies_of_prefix {past past' : History} {reply : Request × Octets}
    (hpast : past <+: past') (h : past.replies.head? = some reply) :
    past'.replies.head? = some reply := by
  obtain ⟨next, rfl⟩ := hpast
  rw [replies_append, List.head?_append, h, Option.some_or]

end History

namespace Lookup

variable {config : Config} {memory : Memory} {past : History}

/-! ## One question to one server -/

theorem replies_announce (event : TraceEvent) :
    (announce event).Ensures memory past fun _ memory' past' =>
      memory'.cache = memory.cache ∧ memory'.now = memory.now ∧ past'.replies = past.replies := by
  refine (ensures_announce event).mono ?_
  rintro - memory' past' ⟨hcache, hnow, rfl | rfl⟩
  · exact ⟨hcache, hnow, rfl⟩
  · exact ⟨hcache, hnow, by simp⟩

/-- The attempts end with the first datagram that comes back. -/
theorem replies_sendUntilReply (query : Query) (server : IpAddress) (id : UInt16)
    (payload : Octets) (attempt attempts : Nat) :
    (sendUntilReply config query server id payload attempt attempts).Ensures memory past
      fun result memory' past' => memory'.cache = memory.cache ∧
        past'.replies = past.replies ++
          (result.map fun octets => (config.request server payload, octets)).toList := by
  induction attempts generalizing memory past attempt with
  | zero => exact Ensures.pure ⟨rfl, by simp⟩
  | succ attempts ih =>
    refine (replies_announce _).bind ?_
    rintro - memory₁ past₁ ⟨hcache, -, hreplies⟩
    refine (ensures_exchange server payload).bind ?_
    rintro _ _ _ ⟨delivery, rfl, rfl, rfl⟩
    have hsent : History.replies
        (past₁ ++ [.entry (.exchanged (config.request server payload) delivery)]) =
          past.replies ++ ((delivery.awaited (config.request server payload)).2.octets?.map
            fun octets => (config.request server payload, octets)).toList := by
      rw [History.replies_append, hreplies]
      cases hoctets : (delivery.awaited (config.request server payload)).2.octets? with
      | none => simp [History.replies, Occurrence.reply?, hoctets]
      | some octets => simp [History.replies, Occurrence.reply?, hoctets]
    cases hreply : (delivery.awaited (config.request server payload)).2 with
    | datagram octets =>
      rw [hreply] at hsent
      exact Ensures.pure ⟨hcache, hsent⟩
    | failure error =>
      rw [hreply, Reply.octets?, Option.map_none, Option.toList_none, List.append_nil] at hsent
      refine (ih (attempt + 1)).mono ?_
      rintro result memory' past' ⟨hcache', hreplies'⟩
      exact ⟨hcache'.trans hcache, by rw [hreplies', hsent]⟩

/-- **One question brings back at most one datagram,** and what comes of the question is what
accepting the datagram comes to.  Nothing is learned yet. -/
theorem replies_ask (query : Query) (server : IpAddress) :
    (ask config query server).Ensures memory past fun result memory' past' =>
      memory'.cache = memory.cache ∧
      ((past'.replies = past.replies ∧ result = .error (.unreachable (config.endpoint server))) ∨
        ∃ request payload, past'.replies = past.replies ++ [(request, payload)] ∧
          result = (Message.accept request.id payload).mapError (.protocol server)) := by
  refine Ensures.drawId_bind fun id => ?_
  refine (replies_sendUntilReply query server id _ 0 (config.maxRetries + 1)).bind ?_
  rintro result memory₁ past₁ ⟨hcache, hreplies⟩
  rw [History.replies_append, History.replies_drew, List.append_nil] at hreplies
  cases result with
  | none =>
    rw [Option.map_none, Option.toList_none, List.append_nil] at hreplies
    exact Ensures.pure ⟨hcache, .inl ⟨hreplies, rfl⟩⟩
  | some octets =>
    have hid : (config.request server (Message.ofQuery id query).encode).id = id :=
      Request.id_of_payload rfl
    rw [Option.map_some, Option.toList_some] at hreplies
    dsimp only
    cases haccept : Message.accept id octets with
    | error fault =>
      refine Ensures.pure ⟨hcache, .inr ⟨_, octets, hreplies, ?_⟩⟩
      rw [hid, haccept]
      rfl
    | ok message =>
      refine Ensures.note_bind ((replies_announce _).bind ?_)
      rintro - memory' past' ⟨hcache', -, hreplies'⟩
      rw [History.replies_append, History.replies_noted, List.append_nil, hreplies] at hreplies'
      refine Ensures.pure ⟨hcache'.trans hcache, .inr ⟨_, octets, hreplies', ?_⟩⟩
      rw [hid, haccept]
      rfl

/-! ## The first visit -/

/-- What does not change when steps are noted and events reported. -/
structure Settled (post : Answer → Memory → History → Prop) : Prop where
  /-- Steps may be noted. -/
  noted : ∀ {answer memory past} step, post answer memory past →
    post answer memory (past ++ [.entry (.noted step)])
  /-- Only the cache and the clock matter. -/
  congr : ∀ {answer memory memory' past}, memory'.cache = memory.cache →
    memory'.now = memory.now → post answer memory past → post answer memory' past

variable {post : Answer → Memory → History → Prop}

/-- What resolving a query at the root server ensures, a visit there ensures. -/
theorem Settled.ensures_descend (hpost : Settled post) {nested : Purpose → Query → Lookup Answer}
    {depth left : Nat} {query : Query} {purpose : Purpose} {server : IpAddress}
    (h : ∀ onward step, (resolveAt config nested onward query server).Ensures memory
      (past ++ [.entry (.noted step)]) post) :
    (descend config nested depth query left purpose server).Ensures memory past post := by
  have hvisiting : ∀ visit onward,
      (visiting visit (resolveAt config nested onward query server)).Ensures memory past post := by
    intro visit onward
    refine Ensures.note_bind ((h onward _).bind fun answer memory' past' h' => ?_)
    exact Ensures.note_bind (Ensures.pure (hpost.noted _ h'))
  cases left with
  | zero => exact hvisiting _ _
  | succ left => exact hvisiting _ _

/-- **What the first visit of a lookup ensures, the lookup ensures.** -/
theorem Settled.ensures_whole (hpost : Settled post) {query : Query}
    (h : ∀ nested onward step, (resolveAt config nested onward query config.rootServer).Ensures
      memory (past ++ [.entry (.noted step)]) post) :
    (whole config query).Ensures memory past post := by
  refine Ensures.bind (hpost.ensures_descend (h _)) fun answer memory₁ past₁ h₁ => ?_
  cases answer with
  | ok records => exact Ensures.pure h₁
  | error reason =>
    refine (ensures_announce _).bind ?_
    rintro - memory' past' ⟨hcache, hnow, rfl | rfl⟩
    · exact Ensures.pure (hpost.congr hcache hnow h₁)
    · exact Ensures.pure (hpost.congr hcache hnow (hpost.noted _ h₁))

/-- What is known already is the answer, and nobody is asked. -/
theorem ensures_whole_of_known {query : Query} (h : memory.known query ≠ []) :
    (whole config query).Ensures memory [] fun answer _ past =>
      answer = .ok (memory.known query) ∧
        ∀ occurrence ∈ past, occurrence.isExchange = false := by
  have hsettled : Settled fun answer _ past => answer = .ok (memory.known query) ∧
      ∀ occurrence ∈ past, occurrence.isExchange = false := by
    refine ⟨fun step hpost => ⟨hpost.1, ?_⟩, fun _ _ hpost => hpost⟩
    intro occurrence hmem
    rcases List.mem_append.1 hmem with hmem | hmem
    · exact hpost.2 occurrence hmem
    · rw [List.mem_singleton.1 hmem]
      rfl
  refine hsettled.ensures_whole fun nested onward step => Ensures.get_bind ?_
  cases hknown : memory.known query with
  | nil => exact absurd hknown h
  | cons record records =>
    refine Ensures.pure ⟨rfl, fun occurrence hmem => ?_⟩
    rw [List.nil_append, List.mem_singleton] at hmem
    rw [hmem]
    rfl

end Lookup

end IterativeDns
