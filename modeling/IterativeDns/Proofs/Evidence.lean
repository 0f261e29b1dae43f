import IterativeDns.Proofs.Course
import IterativeDns.Proofs.Lifetime
import Mathlib.Data.List.Chain

/-!
# Evidence for answers

An answer is only as good as the messages that it comes from, and a record only as good as the
moment at which it is used.  This file says what counts as evidence for the answer to a query, and
which evidence a memory and a response can give.

* `History.Received` — a record stands in a message that has arrived, and `History.Usable` — it
  could be used when a history ended: it was part of the response at hand, or had not expired.
* `Search` — the search for a name, from some moment on, and `Search.GoesOn` — it went on with the
  search for what the name is an alias for, as could be said when that search began.
* `Evidence` — searches that went on with each other up to the end, and records of the last name
  that could be used at the end.
* `Memory.Recalls.usable_of_known`, `Memory.Recalls.leads_of_knownAlias?` — whatever a memory that
  agrees with its history comes up with can be used at the end of that history.
-/

namespace IterativeDns

/-! ## Records that may be used -/

namespace History

/-- A record stands in a message that has arrived. -/
def Received (start : Instant) (past : History) (record : Record) : Prop :=
  ∃ arrival ∈ past.arrivals start, record ∈ arrival.message.records

/-- A record could be used when a history ended that had begun at a moment.  A message that had
arrived holds it, and either that message came of what had been sent last, since an earlier point of
the history, or the record had not expired by the end. -/
def Usable (start : Instant) (past past' : History) (record : Record) : Prop :=
  ∃ recent, past' = past ++ recent ∧
    ∃ arrival ∈ past'.arrivals start, record ∈ arrival.message.records ∧
      (recent.latest? = some arrival.message ∨
        record.isExpired arrival.moment (start + past'.elapsed) = false)

variable {start : Instant} {past past₁ past' recent : History} {record : Record}

theorem mem_arrivals_later {arrival : Arrival} (h : arrival ∈ past.arrivals start)
    (hpast : past <+: past') : arrival ∈ past'.arrivals start := by
  obtain ⟨next, rfl⟩ := hpast
  rw [arrivals_append]
  exact List.mem_append_left _ h

theorem Received.later (h : Received start past record) (hpast : past <+: past') :
    Received start past' record := by
  obtain ⟨arrival, harrived, hmem⟩ := h
  exact ⟨arrival, mem_arrivals_later harrived hpast, hmem⟩

/-- Whatever has arrived was decoded, so its data is of the kind that its type calls for. -/
theorem Received.dataFits (h : Received start past record) : record.DataFits := by
  obtain ⟨arrival, harrived, hmem⟩ := h
  obtain ⟨payload, hdecode⟩ := decode_of_mem_arrivals harrived
  exact Message.dataFits_of_decode hdecode record hmem

/-- What came of what was sent last is not changed by what happened before. -/
theorem latest?_append_of_eq_some {message : Message} (h : recent.latest? = some message) :
    latest? (past ++ recent) = some message := by
  obtain ⟨occurrence, hfind, hanswer⟩ := Option.bind_eq_some_iff.1 h
  rw [latest?, List.reverse_append, List.find?_append, hfind]
  exact hanswer

/-- The message that came of what was sent last has arrived. -/
theorem exists_mem_arrivals_of_latest? {message : Message} (h : recent.latest? = some message) :
    ∃ moment, ⟨message, moment⟩ ∈ recent.arrivals start := by
  obtain ⟨occurrence, hfind, hanswer⟩ := Option.bind_eq_some_iff.1 h
  refine exists_mem_arrivals_iff.2 ⟨occurrence, ?_, hanswer⟩
  exact List.mem_reverse.1 (List.mem_of_find?_eq_some hfind)

/-- A record of the response at hand can be used. -/
theorem Usable.of_latest? {message : Message} (h : recent.latest? = some message)
    (hmem : record ∈ message.records) : Usable start past (past ++ recent) record := by
  obtain ⟨moment, harrived⟩ := exists_mem_arrivals_of_latest? (latest?_append_of_eq_some h)
  exact ⟨recent, rfl, ⟨message, moment⟩, harrived, hmem, .inl h⟩

/-- A record that has not expired can be used. -/
theorem Usable.of_not_isExpired {arrival : Arrival} (harrived : arrival ∈ past.arrivals start)
    (hmem : record ∈ arrival.message.records)
    (hlive : record.isExpired arrival.moment (start + past.elapsed) = false) :
    Usable start past past record :=
  ⟨[], (List.append_nil past).symm, arrival, harrived, hmem, .inr hlive⟩

/-- What could be used at a moment could be used at it as seen from an earlier point. -/
theorem Usable.widen (h : Usable start past₁ past' record) (hbefore : past <+: past₁) :
    Usable start past past' record := by
  obtain ⟨between, rfl⟩ := hbefore
  obtain ⟨recent, rfl, arrival, harrived, hmem, husable⟩ := h
  exact ⟨between ++ recent, List.append_assoc .., arrival, harrived, hmem,
    husable.imp_left latest?_append_of_eq_some⟩

/-- A note takes no time and brings no message, so what can be used can be used after it. -/
theorem Usable.noted (h : Usable start past past' record) (step : Step) :
    Usable start past (past' ++ [.entry (.noted step)]) record := by
  obtain ⟨recent, rfl, arrival, harrived, hmem, husable⟩ := h
  refine ⟨recent ++ [.entry (.noted step)], List.append_assoc .., arrival, ?_, hmem, ?_⟩
  · exact mem_arrivals_later harrived (List.prefix_append _ _)
  · rw [latest?_append_of_forall (List.forall_mem_singleton.2 rfl), elapsed_append _ [_],
      elapsed_singleton]
    exact husable

theorem Usable.received (h : Usable start past past' record) : Received start past' record := by
  obtain ⟨-, -, arrival, harrived, hmem, -⟩ := h
  exact ⟨arrival, harrived, hmem⟩

end History

theorem Record.type_eq_cname {record : Record} {target : Name} (hfits : record.DataFits)
    (hdata : record.data = .cname target) : record.type = .cname := by
  rw [DataFits, hdata] at hfits
  cases htype : record.type <;> simp [htype, RecordData.type?, RecordType.dataType?] at hfits
  rfl

theorem RecordData.eq_cname {data : RecordData} {target : Name}
    (h : data.aliasTarget? = some target) : data = .cname target := by
  cases data <;> simp [aliasTarget?] at h
  rw [h]

/-! ## Evidence -/

/-- When a history ended, a name counted as an alias for another one. -/
def Config.Leads (config : Config) (start : Instant) (past past' : History)
    (owner target : Name) : Prop :=
  ∃ link, History.Usable start past past' link ∧ link.type = .cname ∧ link.data = .cname target ∧
    config.sameName link.name owner = true

/-- The search for a name. -/
structure Search where
  /-- The name. -/
  name : Name
  /-- What had happened when the search began. -/
  begun : History

/-- One search, for records of a type, went on with another, up to the end of a history. -/
structure Search.GoesOn (config : Config) (start : Instant) (past' : History) (type : RecordType)
    (search next : Search) : Prop where
  /-- When the other search began, its name was what the name of the first counted as an alias
  for. -/
  leads : config.Leads start search.begun next.begun search.name next.name
  /-- The other search was a visit that ended with records, and nothing was sent after it. -/
  pursued : ∃ (call : Call) (records : List Record) (after : History),
    past' = next.begun ++ call.span ++ after ∧ call.visit.purpose = .aliasTarget ∧
    call.visit.query = ⟨next.name, type⟩ ∧ call.answer = .ok records ∧
    ∀ occurrence ∈ after, occurrence.isExchange = false

/-- Aliases and records from which the answer to a query follows.  The query was resolved between
the ends of two histories, the first of which began at a moment. -/
structure Evidence (config : Config) (start : Instant) (past past' : History) (query : Query)
    (searches : List Search) (records : List Record) : Prop where
  /-- The search for the name of the query went on with the first search, that with the second, and
  so on. -/
  linked : (⟨query.name, past⟩ :: searches).IsChain (Search.GoesOn config start past' query.type)
  /-- Each record of the answer is a record of the name that was searched for last, and could be
  used at the end.  If there are aliases, it is reported under the name of the query. -/
  sourced : ∀ record ∈ records, ∃ source,
    History.Usable start (searches.getLastD ⟨query.name, past⟩).begun past' source ∧
    config.sameName source.name (searches.getLastD ⟨query.name, past⟩).name = true ∧
    source.type = query.type ∧ source.DataFits ∧
    record = if searches = [] then source else { source with name := query.name }

variable {config : Config} {start : Instant} {past past₁ past' recent : History} {query : Query}

theorem Config.Leads.widen {owner target : Name} (h : config.Leads start past₁ past' owner target)
    (hbefore : past <+: past₁) : config.Leads start past past' owner target := by
  obtain ⟨link, husable, hlink⟩ := h
  exact ⟨link, husable.widen hbefore, hlink⟩

/-- The other search began before the end. -/
theorem Search.GoesOn.begun_prefix {type : RecordType} {search next : Search}
    (h : Search.GoesOn config start past' type search next) : next.begun <+: past' := by
  obtain ⟨call, records, after, rfl, -⟩ := h.pursued
  rw [List.append_assoc]
  exact List.prefix_append _ _

/-- A note may be taken at the end. -/
theorem Search.GoesOn.noted {type : RecordType} {search next : Search}
    (h : Search.GoesOn config start past' type search next) (step : Step) :
    Search.GoesOn config start (past' ++ [.entry (.noted step)]) type search next := by
  obtain ⟨call, records, after, rfl, hpurpose, hquery, hanswer, hafter⟩ := h.pursued
  refine ⟨h.leads, call, records, after ++ [.entry (.noted step)], List.append_assoc .., hpurpose,
    hquery, hanswer, ?_⟩
  exact List.forall_mem_append.2 ⟨hafter, List.forall_mem_singleton.2 rfl⟩

namespace Evidence

variable {searches : List Search} {records : List Record}

/-- The search for the name of the query may have begun earlier. -/
theorem widen (h : Evidence config start past₁ past' query searches records)
    (hbefore : past <+: past₁) : Evidence config start past past' query searches records := by
  obtain ⟨hlinked, hsourced⟩ := h
  cases searches with
  | nil =>
    refine ⟨List.isChain_singleton _, fun record hmem => ?_⟩
    obtain ⟨source, husable, hsource⟩ := hsourced record hmem
    exact ⟨source, husable.widen hbefore, hsource⟩
  | cons next searches =>
    obtain ⟨hfirst, hrest⟩ := List.isChain_cons_cons.1 hlinked
    exact ⟨List.isChain_cons_cons.2 ⟨⟨hfirst.leads.widen hbefore, hfirst.pursued⟩, hrest⟩, hsourced⟩

/-- A note may be taken at the end. -/
theorem noted (h : Evidence config start past past' query searches records) (step : Step) :
    Evidence config start past (past' ++ [.entry (.noted step)]) query searches records where
  linked := h.linked.imp fun _ _ hgoes => hgoes.noted step
  sourced record hmem := by
    obtain ⟨source, husable, hsource⟩ := h.sourced record hmem
    exact ⟨source, husable.noted step, hsource⟩

/-- Of the settings, only the way in which names are compared matters. -/
theorem congr {config' : Config} (h : Evidence config start past past' query searches records)
    (hnormalize : config.normalizeNames = config'.normalizeNames) :
    Evidence config' start past past' query searches records := by
  have hsame : config.sameName = config'.sameName := by
    funext a b
    rw [Config.sameName, Config.sameName, hnormalize]
  refine ⟨h.linked.imp fun search next hgoes => ⟨?_, hgoes.pursued⟩, ?_⟩
  · simpa only [Config.Leads, hsame] using hgoes.leads
  · simpa only [hsame] using h.sourced

/-- Nothing is needed for an answer without records. -/
theorem nil : Evidence config start past past' query [] [] where
  linked := List.isChain_singleton _
  sourced _ hmem := absurd hmem List.not_mem_nil

/-- Records of the name itself are evidence for themselves. -/
theorem direct
    (h : ∀ record ∈ records, History.Usable start past past' record ∧
      record.type = query.type ∧ config.sameName record.name query.name = true) :
    Evidence config start past past' query [] records where
  linked := List.isChain_singleton _
  sourced record hmem := by
    obtain ⟨husable, htype, hname⟩ := h record hmem
    exact ⟨record, husable, hname, htype, husable.received.dataFits, rfl⟩

/-- An alias and evidence for the name that it stands for are evidence for the alias. -/
theorem through {target : Name} {call : Call}
    (hleads : config.Leads start past past₁ query.name target)
    (hspan : past' = past₁ ++ call.span) (hpurpose : call.visit.purpose = .aliasTarget)
    (hquery : call.visit.query = { query with name := target })
    (hanswer : call.answer = .ok records)
    (h : Evidence config start past₁ past' { query with name := target } searches records) :
    Evidence config start past past' query (⟨target, past₁⟩ :: searches)
      (records.map (·.rekeyed query)) where
  linked := by
    refine List.isChain_cons_cons.2 ⟨⟨hleads, call, records, [], ?_, hpurpose, hquery, hanswer, ?_⟩,
      h.linked⟩
    · rw [List.append_nil, hspan]
    · exact List.forall_mem_nil _
  sourced record hmem := by
    obtain ⟨found, hfound, rfl⟩ := List.mem_map.1 hmem
    obtain ⟨source, husable, hname, htype, hfits, rfl⟩ := h.sourced found hfound
    have htype : source.type = query.type := htype
    refine ⟨source, ?_, ?_, htype, hfits, ?_⟩
    · rwa [List.getLastD_cons]
    · rwa [List.getLastD_cons]
    · by_cases hnil : searches = []
      · simp [hnil, Record.rekeyed, ← htype]
      · simp [hnil, Record.rekeyed, ← htype]

end Evidence

/-! ## What a cache can come up with -/

namespace Cache

theorem mem_of_mem_store {entry other : CacheEntry} {entries : List CacheEntry}
    (h : other ∈ store entry entries) : other = entry ∨ other ∈ entries := by
  induction entries with
  | nil => exact .inl (List.mem_singleton.1 h)
  | cons first rest ih =>
    by_cases hsame : first.record = entry.record
    · rw [store, if_pos hsame] at h
      rcases List.mem_cons.1 h with h | h
      · exact .inl h
      · exact .inr (List.mem_cons_of_mem _ h)
    · rw [store, if_neg hsame] at h
      rcases List.mem_cons.1 h with rfl | h
      · exact .inr List.mem_cons_self
      · exact (ih h).imp_right (List.mem_cons_of_mem _)

theorem mem_of_mem_insertAll {cache : Cache} {records : List Record} {now : Instant}
    {entry : CacheEntry} (h : entry ∈ (cache.insertAll records now).entries) :
    entry ∈ cache.entries ∨ (entry.record ∈ records ∧ entry.storedAt = now) := by
  induction records generalizing cache with
  | nil => exact .inl h
  | cons record records ih =>
    rcases ih h with hmem | ⟨hmem, hnow⟩
    · rcases mem_of_mem_store hmem with rfl | hmem
      · exact .inr ⟨List.mem_cons_self, rfl⟩
      · exact .inl hmem
    · exact .inr ⟨List.mem_cons_of_mem _ hmem, hnow⟩

/-- A new cache comes to hold nothing but records of the messages that it learns. -/
theorem mem_of_mem_learned {normalizeNames : Bool} {arrivals : List Arrival} {entry : CacheEntry}
    (h : entry ∈ ((Cache.empty normalizeNames).learned arrivals).entries) :
    ∃ arrival ∈ arrivals, entry.record ∈ arrival.message.records ∧
      entry.storedAt = arrival.moment := by
  rw [learned_eq_insertEach, mem_insertEach] at h
  obtain ⟨arrival, harrived, hentry⟩ := List.mem_flatMap.1 h.mem
  obtain ⟨record, hrecord, rfl⟩ := List.mem_map.1 hentry
  exact ⟨arrival, harrived, hrecord, rfl⟩

theorem normalizeNames_insertAll (cache : Cache) (records : List Record) (now : Instant) :
    (cache.insertAll records now).normalizeNames = cache.normalizeNames := by
  induction records generalizing cache with
  | nil => rfl
  | cons record records ih => exact ih (cache.insert record now)

theorem normalizeNames_learned (cache : Cache) (arrivals : List Arrival) :
    (cache.learned arrivals).normalizeNames = cache.normalizeNames := by
  induction arrivals generalizing cache with
  | nil => rfl
  | cons arrival arrivals ih =>
    exact (ih _).trans (normalizeNames_insertAll cache arrival.message.records arrival.moment)

/-- Records are found under the names that count as the same, and under their own type only. -/
theorem key_eq_key_iff {cache : Cache} {config : Config} {query query' : Query}
    (h : cache.normalizeNames = config.normalizeNames) :
    cache.key query = cache.key query' ↔
      config.sameName query.name query'.name = true ∧ query.type = query'.type := by
  obtain ⟨name, type⟩ := query
  obtain ⟨name', type'⟩ := query'
  rw [key, key, h, Config.sameName]
  cases config.normalizeNames <;> simp [Query.normalized]

/-- What a lookup finds is stored, has not expired, and is filed under the query. -/
theorem mem_lookup {cache : Cache} {query : Query} {now : Instant} {record : Record} :
    record ∈ cache.lookup query now ↔
      ∃ entry ∈ cache.entries, entry.record = record ∧ cache.key record.query = cache.key query ∧
        record.isExpired entry.storedAt now = false := by
  simp only [lookup, found, List.mem_map, List.mem_filter, Bool.and_eq_true, beq_iff_eq, keyOf,
    CacheEntry.isLive, Bool.not_eq_true']
  constructor
  · rintro ⟨entry, ⟨hmem, hkey, hlive⟩, rfl⟩
    exact ⟨entry, hmem, rfl, hkey, hlive⟩
  · rintro ⟨entry, hmem, rfl, hkey, hlive⟩
    exact ⟨entry, ⟨hmem, hkey, hlive⟩, rfl⟩

end Cache

namespace Memory.Recalls

variable {start memory : Memory}

/-- What is known can be used. -/
theorem usable_of_known (h : start.Recalls memory past)
    (hempty : start.cache = .empty config.normalizeNames) {record : Record}
    (hknown : record ∈ memory.known query) :
    History.Usable start.now past past record ∧ record.type = query.type ∧
      config.sameName record.name query.name = true := by
  obtain ⟨entry, hmem, rfl, hkey, hlive⟩ := Cache.mem_lookup.1 hknown
  have hnormalize : memory.cache.normalizeNames = config.normalizeNames := by
    rw [h.cache_eq, Cache.normalizeNames_learned, hempty]
    rfl
  rw [h.cache_eq, hempty] at hmem
  obtain ⟨arrival, harrived, hrecord, hstored⟩ := Cache.mem_of_mem_learned hmem
  rw [hstored, h.now_eq] at hlive
  obtain ⟨hname, htype⟩ := (Cache.key_eq_key_iff hnormalize).1 hkey
  exact ⟨.of_not_isExpired harrived hrecord hlive, htype, hname⟩

/-- An alias that is known can be used. -/
theorem leads_of_knownAlias? (h : start.Recalls memory past)
    (hempty : start.cache = .empty config.normalizeNames) {target : Name}
    (hknown : memory.knownAlias? query = some target) :
    config.Leads start.now past past query.name target := by
  unfold Memory.knownAlias? at hknown
  split at hknown
  · cases hknown
  · obtain ⟨link, hmem, htarget⟩ := List.exists_of_findSome?_eq_some hknown
    obtain ⟨husable, htype, hname⟩ := h.usable_of_known hempty hmem
    exact ⟨link, husable, htype, RecordData.eq_cname htarget, hname⟩

end Memory.Recalls

/-! ## What a response can come up with -/

namespace Message

variable {message : Message}

theorem mem_records_of_mem_answers {record : Record} (h : record ∈ message.answers) :
    record ∈ message.records := by
  rw [records, List.append_assoc]
  exact List.mem_append_left _ h

/-- The answers to the query itself can be used while the response is at hand. -/
theorem usable_of_direct (h : recent.latest? = some message) {record : Record}
    (hdirect : record ∈ message.direct config query) :
    History.Usable start past (past ++ recent) record ∧ record.type = query.type ∧
      config.sameName record.name query.name = true := by
  obtain ⟨hmem, hmatches⟩ := List.mem_filter.1 hdirect
  rw [Bool.and_eq_true, beq_iff_eq] at hmatches
  exact ⟨.of_latest? h (mem_records_of_mem_answers hmem), hmatches⟩

/-- The alias among the answers can be used while the response is at hand. -/
theorem leads_of_alias? (h : recent.latest? = some message) {target : Name}
    (halias : message.alias? config query = some target) :
    config.Leads start past (past ++ recent) query.name target := by
  obtain ⟨link, hlink, htarget⟩ := List.exists_of_findSome?_eq_some halias
  obtain ⟨hmem, hname⟩ := List.mem_filter.1 hlink
  have husable : History.Usable start past (past ++ recent) link :=
    .of_latest? h (mem_records_of_mem_answers hmem)
  have hdata := RecordData.eq_cname htarget
  exact ⟨link, husable, Record.type_eq_cname husable.received.dataFits hdata, hdata, hname⟩

/-- A final answer is empty or consists of the answers to the query itself. -/
theorem eq_direct_of_verdict_eq_final (htype : query.type ≠ .any) {found : List Record}
    (h : message.verdict config query = .final found) :
    found = [] ∨ found = message.direct config query := by
  unfold verdict answerVerdict referralVerdict at h
  grind

theorem alias?_of_verdict_eq_aliased {target : Name}
    (h : message.verdict config query = .aliased target) :
    message.alias? config query = some target := by
  unfold verdict answerVerdict referralVerdict at h
  grind

end Message

end IterativeDns
