import IterativeDns.Proofs.Conduct

/-!
# Whom a lookup contacts

Once it is known how the servers deal with the queries that are put to them, it is known what a
lookup does: which server it asks which query, one after the other, and how it ends.  This file
follows the parts of a lookup on a network of which something is known.

* `Lookup.Contacts` — a part of a lookup puts certain queries to certain servers, and nothing else
  is sent.  There is one rule for each step that parts of a lookup are made from.
* `Lookup.contacts_ask` — **what a question comes to is decided by the conduct of the server.**
* `Memory.Ignores` — nothing is known about a query, so that it has to be asked.
* `Lookup.contacts_descend_of_responds`, `Lookup.contacts_descend_of_fails` — what comes of visits
  to servers that respond, and to servers that do not help.
* `Resolver.of_contacts` — from the parts of a lookup to the lookup.
-/

namespace IterativeDns

/-! ## Following a lookup -/

namespace Lookup

variable {α β : Type} {config : Config} {exchanges : List Exchange} {memory : Memory}

/-- As long as nothing else is exchanged than in the given exchanges, a part of a lookup makes these
contacts and no others, and `post` holds of its value and of the memory that it leaves behind. -/
def Contacts (config : Config) (exchanges : List Exchange) (program : Lookup α) (memory : Memory)
    (contacts : List Contact) (post : α → Memory → Prop) : Prop :=
  program.Ensures memory [] fun value memory' recent => recent.exchanges ⊆ exchanges →
    config.Makes recent.exchanges contacts ∧ post value memory'

namespace Contacts

variable {program : Lookup α} {contacts more : List Contact} {post middle : α → Memory → Prop}

theorem mono {post' : α → Memory → Prop}
    (h : Contacts config exchanges program memory contacts post)
    (hpost : ∀ value memory', post value memory' → post' value memory') :
    Contacts config exchanges program memory contacts post' :=
  Ensures.mono h fun value memory' _ hcontacts hsub =>
    (hcontacts hsub).imp_right (hpost value memory')

/-- Nothing is sent. -/
theorem of_quiet (h : program.Ensures memory [] fun value memory' recent =>
      (∀ occurrence ∈ recent, occurrence.isExchange = false) ∧ post value memory') :
    Contacts config exchanges program memory [] post := by
  refine Ensures.mono h fun value memory' recent ⟨hquiet, hpost⟩ _ => ⟨?_, hpost⟩
  rw [History.exchanges_eq_nil hquiet]
  exact .nil

theorem pure {value : α} (h : post value memory) :
    Contacts config exchanges (Pure.pure value) memory [] post :=
  of_quiet (Ensures.pure ⟨by simp, h⟩)

/-- One part after the other makes the contacts of the one and then those of the other. -/
theorem bind {rest : α → Lookup β} {post : β → Memory → Prop}
    (h : Contacts config exchanges program memory contacts middle)
    (hrest : ∀ value memory', middle value memory' →
      Contacts config exchanges (rest value) memory' more post) :
    Contacts config exchanges (program >>= rest) memory (contacts ++ more) post := by
  refine Ensures.bind h fun value memory' before hfirst => ?_
  by_cases hsub : before.exchanges ⊆ exchanges
  · obtain ⟨hmade, hmiddle⟩ := hfirst hsub
    refine (hrest value memory' hmiddle).since.mono ?_
    rintro value' memory'' _ ⟨recent, rfl, hsecond⟩ hall
    rw [History.exchanges_append] at hall ⊢
    obtain ⟨hmore, hpost⟩ := hsecond fun exchange hmem => hall (List.mem_append_right _ hmem)
    exact ⟨List.rel_append hmade hmore, hpost⟩
  · -- something else was exchanged already
    refine Ensures.extends_past.mono ?_
    rintro value' memory'' _ ⟨recent, rfl⟩ hall
    rw [History.exchanges_append] at hall
    exact absurd (fun exchange hmem => hall (List.mem_append_left _ hmem)) hsub

theorem get_bind {rest : Memory → Lookup β} {post : β → Memory → Prop}
    (h : Contacts config exchanges (rest memory) memory contacts post) :
    Contacts config exchanges (MonadState.get >>= rest) memory contacts post :=
  Ensures.get_bind h

theorem modify_bind {change : Memory → Memory} {rest : PUnit → Lookup β}
    {post : β → Memory → Prop}
    (h : Contacts config exchanges (rest ⟨⟩) (change memory) contacts post) :
    Contacts config exchanges
      ((MonadState.modifyGet fun memory => (⟨⟩, change memory)) >>= rest : Lookup β) memory
      contacts post :=
  Ensures.modify_bind h

/-- Something that sends nothing happens first. -/
theorem quiet_bind {rest : α → Lookup β} {post : β → Memory → Prop}
    (hquiet : program.Ensures memory [] fun value memory' recent =>
      (∀ occurrence ∈ recent, occurrence.isExchange = false) ∧ middle value memory')
    (hrest : ∀ value memory', middle value memory' →
      Contacts config exchanges (rest value) memory' contacts post) :
    Contacts config exchanges (program >>= rest) memory contacts post :=
  (of_quiet hquiet).bind hrest

theorem note_bind {step : Step} {rest : Unit → Lookup β} {post : β → Memory → Prop}
    (h : Contacts config exchanges (rest ()) memory contacts post) :
    Contacts config exchanges (Lookup.note step >>= rest) memory contacts post := by
  have hnote : (Lookup.note step).Ensures memory [] fun _ memory' recent =>
      (∀ occurrence ∈ recent, occurrence.isExchange = false) ∧ memory' = memory :=
    Ensures.note ⟨by simp [Occurrence.isExchange], rfl⟩
  exact quiet_bind hnote fun _ _ hsame => by rwa [hsame]

theorem drawId_bind {rest : UInt16 → Lookup β} {post : β → Memory → Prop}
    (h : ∀ id, Contacts config exchanges (rest id) memory contacts post) :
    Contacts config exchanges (Lookup.drawId >>= rest) memory contacts post := by
  have hdraw : Lookup.drawId.Ensures memory [] fun _ memory' recent =>
      (∀ occurrence ∈ recent, occurrence.isExchange = false) ∧ memory' = memory :=
    Ensures.drawId fun _ => ⟨by simp [Occurrence.isExchange], rfl⟩
  exact quiet_bind hdraw fun id _ hsame => by rw [hsame]; exact h id

/-- A report does not change what is known. -/
theorem announce_bind {event : TraceEvent} {rest : Unit → Lookup β} {post : β → Memory → Prop}
    (h : ∀ memory' : Memory, memory'.cache = memory.cache →
      Contacts config exchanges (rest ()) memory' contacts post) :
    Contacts config exchanges (announce event >>= rest) memory contacts post := by
  have hannounce : (announce event).Ensures memory [] fun _ memory' recent =>
      (∀ occurrence ∈ recent, occurrence.isExchange = false) ∧ memory'.cache = memory.cache := by
    refine (ensures_announce event).mono ?_
    rintro - memory' recent ⟨hcache, -, rfl | rfl⟩
    · exact ⟨by simp, hcache⟩
    · exact ⟨by simp [Occurrence.isExchange], hcache⟩
  exact quiet_bind hannounce fun _ => h

theorem visiting {body : Lookup Answer} {post : Answer → Memory → Prop}
    (h : Contacts config exchanges body memory contacts post) (visit : Visit) :
    Contacts config exchanges (visiting visit body) memory contacts post := by
  refine note_bind ?_
  rw [← List.append_nil contacts]
  exact h.bind fun answer memory' hpost => note_bind (pure hpost)

end Contacts

/-! ## One question to one server -/

section Questions

variable {contact : Contact} {conduct : Conduct} (hmeets : contact.Meets config exchanges conduct)

include hmeets

/-- A request makes the contact, and what comes of it shows the conduct. -/
theorem contacts_exchange (id : UInt16) :
    let request := config.request contact.server (Message.ofQuery id contact.query).encode
    Contacts config exchanges
      (exchange config contact.server (Message.ofQuery id contact.query).encode) memory [contact]
      fun reply memory' => memory'.cache = memory.cache ∧
        ∃ delivery, conduct.ShownBy ⟨request, delivery⟩ ∧ reply = (delivery.awaited request).2 := by
  intro request
  refine (ensures_exchange contact.server _).mono ?_
  rintro _ _ _ ⟨delivery, rfl, rfl, rfl⟩ hsub
  have hmade : contact.IsMadeBy config ⟨request, delivery⟩ := ⟨id, rfl⟩
  exact ⟨.cons hmade .nil, rfl, delivery, hmeets _ (hsub List.mem_cons_self) hmade, rfl⟩

omit hmeets in
/-- By induction on the attempts that are left. -/
theorem contacts_sendUntilReply_of_silence
    (hsilent : contact.Meets config exchanges (.fails .silence)) (id : UInt16)
    (attempt attempts : Nat) :
    Contacts config exchanges
      (sendUntilReply config contact.query contact.server id
        (Message.ofQuery id contact.query).encode attempt attempts)
      memory (List.replicate attempts contact)
      fun result memory' => result = none ∧ memory'.cache = memory.cache := by
  induction attempts generalizing memory attempt with
  | zero => exact Contacts.pure ⟨rfl, rfl⟩
  | succ attempts ih =>
    refine Contacts.announce_bind fun memory₁ hcache₁ => ?_
    refine (contacts_exchange hsilent id).bind ?_
    rintro _ memory₂ ⟨hcache₂, delivery, hshown, rfl⟩
    cases hreply : (delivery.awaited
        (config.request contact.server (Message.ofQuery id contact.query).encode)).2 with
    | datagram octets => simp [Conduct.ShownBy, Mishap.isShownBy, hreply] at hshown
    | failure error =>
      refine (ih (attempt + 1)).mono fun result memory' h => ⟨h.1, ?_⟩
      exact h.2.trans (hcache₂.trans hcache₁)

/-- A server that is not silent is asked only once. -/
theorem contacts_sendUntilReply (hheard : conduct ≠ .fails .silence) (id : UInt16)
    (attempt attempts : Nat) :
    let request := config.request contact.server (Message.ofQuery id contact.query).encode
    Contacts config exchanges
      (sendUntilReply config contact.query contact.server id
        (Message.ofQuery id contact.query).encode attempt (attempts + 1))
      memory [contact]
      fun result memory' => memory'.cache = memory.cache ∧
        ∃ delivery octets, conduct.ShownBy ⟨request, delivery⟩ ∧
          (delivery.awaited request).2 = .datagram octets ∧ result = some octets := by
  intro request
  refine Contacts.announce_bind fun memory₁ hcache₁ => ?_
  rw [← List.append_nil [contact]]
  refine (contacts_exchange hmeets id).bind ?_
  rintro _ memory₂ ⟨hcache₂, delivery, hshown, rfl⟩
  obtain ⟨octets, hreply⟩ := hshown.exists_datagram hheard
  rw [show (delivery.awaited
    (config.request contact.server (Message.ofQuery id contact.query).encode)).2 =
      .datagram octets from hreply]
  exact Contacts.pure ⟨hcache₂.trans hcache₁, delivery, octets, hshown, hreply, rfl⟩

/-- **What a question comes to is decided by the conduct of the server.** -/
theorem contacts_ask :
    Contacts config exchanges (ask config contact.query contact.server) memory
      (conduct.contacts config contact) fun result memory' => memory'.cache = memory.cache ∧
        conduct.Brings config contact.server result := by
  refine Contacts.drawId_bind fun id => ?_
  rw [← List.append_nil (conduct.contacts config contact)]
  by_cases hsilent : conduct = .fails .silence
  · subst hsilent
    refine (contacts_sendUntilReply_of_silence hmeets id 0 (config.maxRetries + 1)).bind ?_
    rintro _ memory' ⟨rfl, hcache⟩
    exact Contacts.pure ⟨hcache, .failure .silence⟩
  · rw [Conduct.contacts_of_heard hsilent]
    refine (contacts_sendUntilReply hmeets hsilent id 0 config.maxRetries).bind ?_
    rintro _ memory₁ ⟨hcache₁, delivery, octets, hshown, hreply, rfl⟩
    have hbrings := hshown.brings config contact.server hreply
    rw [Request.id_of_payload rfl] at hbrings
    dsimp only
    cases haccept : Message.accept id octets with
    | error fault =>
      rw [haccept] at hbrings
      exact Contacts.pure ⟨hcache₁, hbrings⟩
    | ok message =>
      rw [haccept] at hbrings
      refine Contacts.note_bind (Contacts.announce_bind fun memory' hcache => ?_)
      exact Contacts.pure ⟨hcache.trans hcache₁, hbrings⟩

end Questions

end Lookup

/-! ## Names that differ -/

/-- No two of the names count as the same. -/
def Config.TellsApart (config : Config) (names : List Name) : Prop :=
  names.Pairwise fun a b => config.sameName a b = false

instance (config : Config) (names : List Name) : Decidable (config.TellsApart names) :=
  inferInstanceAs (Decidable (names.Pairwise _))

theorem Config.sameName_comm_eq_false {config : Config} {a b : Name}
    (h : config.sameName a b = false) : config.sameName b a = false := by
  refine Bool.eq_false_iff.2 fun hsame => ?_
  rw [sameName_symm hsame] at h
  cases h

/-! ## What is not known -/

/-- The record may decide what is known about a query: it is of its type, or an alias, and its owner
counts as the name of the query. -/
def Record.Concerns (config : Config) (query : Query) (record : Record) : Prop :=
  (record.type = query.type ∨ record.type = .cname) ∧
    config.sameName record.name query.name = true

instance (config : Config) (query : Query) (record : Record) :
    Decidable (record.Concerns config query) :=
  inferInstanceAs (Decidable (_ ∧ _))

/-- A memory holds nothing that concerns a query. -/
structure Memory.Ignores (config : Config) (query : Query) (memory : Memory) : Prop where
  /-- Records are filed under names that count as the same. -/
  normalizeNames : memory.cache.normalizeNames = config.normalizeNames
  /-- No record concerns the query. -/
  unconcerned : ∀ entry ∈ memory.cache.entries, ¬ entry.record.Concerns config query

namespace Memory

variable {config : Config} {memory memory' : Memory} {query : Query} {message : Message}

theorem ignores_of_empty (hempty : memory.cache = .empty config.normalizeNames) :
    memory.Ignores config query := by
  refine ⟨by rw [hempty]; rfl, fun entry hmem => ?_⟩
  rw [hempty] at hmem
  exact absurd hmem List.not_mem_nil

theorem learn_of_records_eq_nil (hnone : message.records = []) :
    (memory.learn message).cache = memory.cache := by
  rw [learn, hnone]
  rfl

namespace Ignores

/-- Only the cache matters. -/
theorem congr (h : memory.Ignores config query) (hcache : memory'.cache = memory.cache) :
    memory'.Ignores config query :=
  ⟨by rw [hcache]; exact h.normalizeNames, by rw [hcache]; exact h.unconcerned⟩

/-- Records that do not concern the query are learned. -/
theorem learn (h : memory.Ignores config query)
    (hrecords : ∀ record ∈ message.records, ¬ record.Concerns config query) :
    (memory.learn message).Ignores config query where
  normalizeNames := (Cache.normalizeNames_insertAll ..).trans h.normalizeNames
  unconcerned entry hmem := by
    rcases Cache.mem_of_mem_insertAll hmem with hmem | ⟨hmem, -⟩
    · exact h.unconcerned entry hmem
    · exact hrecords entry.record hmem

theorem known_eq_nil (h : memory.Ignores config query) : memory.known query = [] := by
  refine List.eq_nil_iff_forall_not_mem.2 fun record hmem => ?_
  obtain ⟨entry, hentry, rfl, hkey, -⟩ := Cache.mem_lookup.1 hmem
  obtain ⟨hname, htype⟩ := (Cache.key_eq_key_iff h.normalizeNames).1 hkey
  exact h.unconcerned entry hentry ⟨.inl htype, hname⟩

theorem knownAlias?_eq_none (h : memory.Ignores config query) :
    memory.knownAlias? query = none := by
  have hnothing : memory.known { query with type := .cname } = [] := by
    refine List.eq_nil_iff_forall_not_mem.2 fun record hmem => ?_
    obtain ⟨entry, hentry, rfl, hkey, -⟩ := Cache.mem_lookup.1 hmem
    obtain ⟨hname, htype⟩ := (Cache.key_eq_key_iff h.normalizeNames).1 hkey
    exact h.unconcerned entry hentry ⟨.inr htype, hname⟩
  rw [knownAlias?, hnothing]
  simp

end Ignores

end Memory

/-! ## Visits -/

namespace Lookup

variable {config : Config} {exchanges : List Exchange} {memory : Memory}
  {nested : Purpose → Query → Lookup Answer} {contacts : List Contact}
  {post : Answer → Memory → Prop}

/-- How a query is resolved at a server that was referred to, if more referrals may be followed. -/
def onward (config : Config) (nested : Purpose → Query → Lookup Answer) (depth : Nat)
    (query : Query) : (referralsLeft : Nat) → Option (IpAddress → Lookup Answer)
  | 0 => none
  | left + 1 => some (descend config nested depth query left .referral)

/-- A visit resolves its query at its server. -/
theorem exists_descend_eq (config : Config) (nested : Purpose → Query → Lookup Answer) (depth : Nat)
    (query : Query) (left : Nat) (purpose : Purpose) (server : IpAddress) :
    ∃ visit, descend config nested depth query left purpose server =
      visiting visit
        (resolveAt config nested (onward config nested depth query left) query server) := by
  cases left with
  | zero => exact ⟨_, rfl⟩
  | succ left => exact ⟨_, rfl⟩

section Visits

variable {contact : Contact} (hignores : memory.Ignores config contact.query)

include hignores

/-- What is not known is asked. -/
theorem contacts_resolveAt {conduct : Conduct} (hmeets : contact.Meets config exchanges conduct)
    {next : Option (IpAddress → Lookup Answer)}
    (herror : ∀ error (memory' : Memory), memory'.cache = memory.cache →
      conduct.Brings config contact.server (.error error) →
      contacts = [] ∧ post (.error error) memory')
    (hok : ∀ message (memory' : Memory), memory'.cache = memory.cache →
      conduct.Brings config contact.server (.ok message) →
      Contacts config exchanges
        (act config nested next contact.query contact.server
          (message.verdict config contact.query))
        (memory'.learn message) contacts post) :
    Contacts config exchanges (resolveAt config nested next contact.query contact.server) memory
      (conduct.contacts config contact ++ contacts) post := by
  refine Contacts.get_bind ?_
  rw [hignores.known_eq_nil]
  refine Contacts.get_bind ?_
  rw [hignores.knownAlias?_eq_none]
  refine (contacts_ask hmeets).bind ?_
  rintro (error | message) memory' ⟨hcache, hbrings⟩
  · obtain ⟨rfl, hpost⟩ := herror error memory' hcache hbrings
    exact Contacts.pure hpost
  · exact Contacts.modify_bind (hok message memory' hcache hbrings)

variable {depth left : Nat} {purpose : Purpose}

/-- **A visit to a server that responds** learns the response and acts on it. -/
theorem contacts_descend_of_responds {such : Message → Prop}
    (hmeets : contact.Meets config exchanges (.responds such))
    (hact : ∀ message (memory' : Memory), such message →
      (∀ record ∈ message.records, record.DataFits) → memory'.cache = memory.cache →
      Contacts config exchanges
        (act config nested (onward config nested depth contact.query left) contact.query
          contact.server (message.verdict config contact.query))
        (memory'.learn message) contacts post) :
    Contacts config exchanges
      (descend config nested depth contact.query left purpose contact.server) memory
      (contact :: contacts) post := by
  obtain ⟨visit, hdescend⟩ :=
    exists_descend_eq config nested depth contact.query left purpose contact.server
  rw [hdescend]
  refine Contacts.visiting (contacts_resolveAt hignores hmeets ?_ ?_) visit
  · intro error memory' _ hbrings
    cases hbrings
  · intro message memory' hcache hbrings
    cases hbrings with
    | response hsuch hfits => exact hact message memory' hsuch hfits hcache

/-- **A visit to a server that does not help** fails, and nothing is learned. -/
theorem contacts_descend_of_fails {conduct : Conduct} {reason : ResolutionError}
    (hmeets : contact.Meets config exchanges conduct)
    (hfails : conduct.Fails config contact.server reason) :
    Contacts config exchanges
      (descend config nested depth contact.query left purpose contact.server) memory
      (conduct.contacts config contact) fun answer memory' => memory'.cache = memory.cache ∧
        ∃ error, answer = .error error ∧ conduct.Fails config contact.server error := by
  cases hfails with
  | mishap hreported =>
    obtain ⟨visit, hdescend⟩ :=
      exists_descend_eq config nested depth contact.query left purpose contact.server
    rw [hdescend, ← List.append_nil (Conduct.contacts ..)]
    refine Contacts.visiting (contacts_resolveAt hignores hmeets ?_ ?_) visit
    · intro error memory' hcache hbrings
      cases hbrings with
      | failure hreported => exact ⟨rfl, hcache, error, rfl, .mishap hreported⟩
    · intro message memory' _ hbrings
      cases hbrings
  | refuses hsuch =>
    refine contacts_descend_of_responds hignores hmeets fun message memory' hmessage _ hcache => ?_
    obtain ⟨hresponse, hnone⟩ := hsuch message hmessage
    have hverdict : message.verdict config contact.query = .refused := by
      simp [Message.verdict, hresponse]
    rw [hverdict]
    exact Contacts.pure ⟨(Memory.learn_of_records_eq_nil hnone).trans hcache, _, rfl,
      .refuses hsuch⟩
  | knowsNothing hsuch =>
    refine contacts_descend_of_responds hignores hmeets fun message memory' hmessage _ hcache => ?_
    obtain ⟨hresponse, hauthority, hnone⟩ := hsuch message hmessage
    rw [Message.verdict_eq_deadEnd hresponse hauthority hnone]
    exact Contacts.pure ⟨(Memory.learn_of_records_eq_nil hnone).trans hcache, _, rfl,
      .knowsNothing hsuch⟩

/-- **A visit to a server that answers** brings the answers. -/
theorem contacts_descend_of_answers {records : List Record}
    (hmeets : contact.Meets config exchanges
      (.responds (Message.Answers config contact.query records))) :
    Contacts config exchanges
      (descend config nested depth contact.query left purpose contact.server) memory [contact]
      fun answer _ => answer = .ok records := by
  refine contacts_descend_of_responds hignores hmeets fun message memory' hanswers _ _ => ?_
  rw [hanswers.verdict]
  exact Contacts.pure rfl

end Visits

/-- What comes of an alias comes of the name that it stands for. -/
theorem contacts_chase {query : Query} {target : Name}
    (h : Contacts config exchanges (nested .aliasTarget { query with name := target }) memory
      contacts fun answer memory' => post (answer.throughAlias query target) memory') :
    Contacts config exchanges (chase nested query target) memory contacts post := by
  rw [← List.append_nil contacts]
  refine h.bind fun answer memory' hpost => ?_
  cases answer with
  | ok records => exact Contacts.pure hpost
  | error error => exact Contacts.pure hpost

/-! ## Whole lookups -/

/-- How a lookup ends is decided by how its query is resolved. -/
theorem contacts_whole {query : Query} {such : Answer → Prop}
    (h : Contacts config exchanges (resolve config (config.maxIndirection + 1) .lookup query) memory
      contacts fun answer _ => such answer) :
    Contacts config exchanges (whole config query) memory contacts fun answer _ => such answer := by
  rw [← List.append_nil contacts]
  refine h.bind fun answer memory' hanswer => ?_
  cases answer with
  | ok records => exact Contacts.pure hanswer
  | error reason => exact Contacts.announce_bind fun _ _ => Contacts.pure hanswer

end Lookup

/-- What is known of a lookup on its own exchanges is true of the lookup. -/
theorem Resolver.of_contacts {σ : Type} {resolver : Resolver} {query : Query} {network : Network σ}
    {state : σ} {contacts : List Contact} {such : Answer → Prop}
    (h : Lookup.Contacts resolver.config
      ((resolver.lookup query).hold network state).transcript.history.exchanges
      (Lookup.resolve resolver.config (resolver.config.maxIndirection + 1) .lookup query)
      resolver.memory contacts fun answer _ => such answer) :
    let held := (resolver.lookup query).hold network state
    such held.value.1 ∧
      resolver.config.Makes held.transcript.history.exchanges contacts :=
  (of_ensures (Lookup.contacts_whole h) network state fun _ hmem => hmem).symm

end IterativeDns
