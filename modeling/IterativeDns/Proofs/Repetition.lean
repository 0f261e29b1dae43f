import IterativeDns.Proofs.Replies
import IterativeDns.Proofs.Soundness

/-!
# Lookups that need no network

Whatever a lookup relied on has been stored, and is found again by the next one as long as it has
not expired.  This file says that nobody is asked then, however the first lookup came by its answer.

* `Cache.Holds` — a record is stored, expired or not, and it stays so.
* `Memory.Knows` — the records of a query are known, perhaps behind some aliases that are known, and
  `Lookup.ensures_resolve_of_knows` — nobody is asked such a query.
* `Memory.Reliable` — nothing that is stored has expired, and no aliases contradict each other, and
  `Memory.knows_of_isChain` — a reliable memory knows what there is evidence for.
* `Lifetime.lookup_again_of_ok` — **a lookup that is repeated needs no network.**
-/

namespace IterativeDns

/-! ## What is stored stays stored -/

/-- A record is stored, whether it has expired or not. -/
def Cache.Holds (cache : Cache) (record : Record) : Prop :=
  record ∈ cache.entries.map (·.record)

namespace Cache

variable {cache : Cache} {record : Record} {now : Instant}

theorem holds_insert_iff {first : Record} :
    (cache.insert first now).Holds record ↔ cache.Holds record ∨ record = first := by
  unfold Holds insert
  rw [map_record_store]
  split
  · rename_i hmem
    constructor
    · exact .inl
    · rintro (hholds | rfl)
      · exact hholds
      · exact hmem
  · simp

theorem holds_insertAll_iff {records : List Record} :
    (cache.insertAll records now).Holds record ↔ cache.Holds record ∨ record ∈ records := by
  induction records generalizing cache with
  | nil => simp [insertAll]
  | cons first records ih =>
    show ((cache.insert first now).insertAll records now).Holds record ↔ _
    rw [ih, holds_insert_iff, List.mem_cons, or_assoc]

/-- **What arrived is stored from then on.** -/
theorem holds_learned {arrivals : List Arrival}
    (h : cache.Holds record ∨ ∃ arrival ∈ arrivals, record ∈ arrival.message.records) :
    (cache.learned arrivals).Holds record := by
  induction arrivals generalizing cache with
  | nil =>
    rcases h with hholds | ⟨arrival, harrival, -⟩
    · exact hholds
    · cases harrival
  | cons first arrivals ih =>
    show ((cache.insertAll first.message.records first.moment).learned arrivals).Holds record
    apply ih
    rcases h with hholds | ⟨arrival, harrival, hmem⟩
    · exact .inl (holds_insertAll_iff.2 (.inl hholds))
    · rcases List.mem_cons.1 harrival with rfl | harrival
      · exact .inl (holds_insertAll_iff.2 (.inr hmem))
      · exact .inr ⟨arrival, harrival, hmem⟩

end Cache

/-! ## Names that count as the same -/

namespace Config

variable {config : Config} {a b c : Name}

theorem sameName_symm (h : config.sameName a b = true) : config.sameName b a = true := by
  unfold sameName at h ⊢
  by_cases hnormalize : config.normalizeNames = true
  · simp [hnormalize] at h ⊢
    exact h.symm
  · simp [hnormalize] at h ⊢
    exact h.symm

theorem sameName_trans (h : config.sameName a b = true) (h' : config.sameName b c = true) :
    config.sameName a c = true := by
  unfold sameName at h h' ⊢
  by_cases hnormalize : config.normalizeNames = true
  · simp [hnormalize] at h h' ⊢
    exact h.trans h'
  · simp [hnormalize] at h h' ⊢
    exact h.trans h'

end Config

/-! ## Nobody is asked what is known -/

/-- The records of a query are known, or its name is known to be an alias for one of which this is
true, in a number of steps. -/
inductive Memory.Knows (memory : Memory) : Nat → Query → Prop where
  /-- There are records. -/
  | records {steps : Nat} {query : Query} (hsome : memory.known query ≠ []) :
      Knows memory steps query
  /-- There is an alias. -/
  | through {steps : Nat} {query : Query} {target : Name}
      (halias : memory.knownAlias? query = some target)
      (htarget : Knows memory steps { query with name := target }) : Knows memory (steps + 1) query

namespace Lookup

variable {config : Config} {memory : Memory} {past : History}

/-- A part of a lookup has found records, and nothing was sent so far. -/
def FoundQuietly (answer : Answer) (_ : Memory) (past : History) : Prop :=
  (∃ records, answer = .ok records ∧ records ≠ []) ∧
    ∀ occurrence ∈ past, occurrence.isExchange = false

theorem settled_foundQuietly : Settled FoundQuietly where
  noted step h := by
    refine ⟨h.1, List.forall_mem_append.2 ⟨h.2, ?_⟩⟩
    exact List.forall_mem_singleton.2 rfl
  congr _ _ h := h

section Visits

variable {nested : Purpose → Query → Lookup Answer} {onward : Option (IpAddress → Lookup Answer)}
  {query : Query} (hquiet : ∀ occurrence ∈ past, occurrence.isExchange = false)

include hquiet

theorem ensures_resolveAt_of_known (hsome : memory.known query ≠ []) (server : IpAddress) :
    (resolveAt config nested onward query server).Ensures memory past FoundQuietly := by
  apply Ensures.get_bind
  cases hknown : memory.known query with
  | nil => exact absurd hknown hsome
  | cons record records => exact Ensures.pure ⟨⟨_, rfl, List.cons_ne_nil _ _⟩, hquiet⟩

/-- An alias that is known is followed, unless there are records. -/
theorem ensures_resolveAt_of_knownAlias {target : Name}
    (halias : memory.knownAlias? query = some target)
    (htarget : (nested .aliasTarget { query with name := target }).Ensures memory past FoundQuietly)
    (server : IpAddress) :
    (resolveAt config nested onward query server).Ensures memory past FoundQuietly := by
  by_cases hsome : memory.known query = []
  · apply Ensures.get_bind
    rw [hsome]
    apply Ensures.get_bind
    rw [halias]
    show (chase nested query target).Ensures memory past FoundQuietly
    refine Ensures.bind htarget ?_
    rintro _ memory' past' ⟨⟨records, rfl, hrecords⟩, hquiet'⟩
    apply Ensures.pure
    refine ⟨⟨_, rfl, ?_⟩, hquiet'⟩
    intro hnone
    exact hrecords (List.map_eq_nil_iff.1 hnone)
  · exact ensures_resolveAt_of_known hquiet hsome server

end Visits

/-- **Nobody is asked what is known,** if there are levels enough for all its aliases.  The
induction is on the steps in which it is known. -/
theorem ensures_resolve_of_knows {steps levels : Nat} {query : Query}
    (h : memory.Knows steps query) (hlevels : steps < levels) (purpose : Purpose)
    (hquiet : ∀ occurrence ∈ past, occurrence.isExchange = false) :
    (resolve config levels purpose query).Ensures memory past FoundQuietly := by
  have hnoted : ∀ (past : History) step, (∀ occurrence ∈ past, occurrence.isExchange = false) →
      ∀ occurrence ∈ past ++ [.entry (.noted step)], occurrence.isExchange = false := by
    intro past step hpast
    exact List.forall_mem_append.2 ⟨hpast, List.forall_mem_singleton.2 rfl⟩
  induction h generalizing levels purpose past with
  | records hsome =>
    obtain ⟨left, rfl⟩ := Nat.exists_eq_add_of_lt hlevels
    apply settled_foundQuietly.ensures_descend
    intro onward step
    exact ensures_resolveAt_of_known (hnoted past step hquiet) hsome _
  | through halias htarget ih =>
    obtain ⟨left, rfl⟩ := Nat.exists_eq_add_of_lt hlevels
    apply settled_foundQuietly.ensures_descend
    intro onward step
    have hpast := hnoted past step hquiet
    exact ensures_resolveAt_of_knownAlias hpast halias (ih (by omega) .aliasTarget hpast) _

theorem ensures_whole_of_knows {steps : Nat} {query : Query} (h : memory.Knows steps query)
    (hsteps : steps ≤ config.maxIndirection) :
    (whole config query).Ensures memory [] FoundQuietly := by
  refine (ensures_resolve_of_knows h (Nat.lt_succ_of_le hsteps) .lookup (by simp)).bind ?_
  rintro _ memory' past' ⟨⟨records, rfl, hrecords⟩, hquiet⟩
  exact Ensures.pure ⟨⟨records, rfl, hrecords⟩, hquiet⟩

end Lookup

/-! ## What there is evidence for is known -/

/-- A memory can be relied on as it is: nothing that is stored has expired, and no two aliases that
are filed together stand for names that do not count as the same. -/
structure Memory.Reliable (config : Config) (memory : Memory) : Prop where
  /-- Nothing has expired. -/
  live : ∀ entry ∈ memory.cache.entries, entry.isLive memory.now = true
  /-- Aliases that are filed together stand for the same name. -/
  agree : ∀ entry ∈ memory.cache.entries, ∀ other ∈ memory.cache.entries,
    memory.cache.keyOf entry = memory.cache.keyOf other → entry.record.type = .cname →
    ∀ target ∈ entry.record.data.aliasTarget?, ∀ target' ∈ other.record.data.aliasTarget?,
      config.sameName target target' = true

instance (config : Config) (memory : Memory) : Decidable (memory.Reliable config) :=
  decidable_of_iff (_ ∧ _) ⟨fun h => ⟨h.1, h.2⟩, fun h => ⟨h.live, h.agree⟩⟩

section Evidence

variable {config : Config} {memory : Memory} {start : Instant} {past past' : History}
  (hreliable : memory.Reliable config)
  (hnormalize : memory.cache.normalizeNames = config.normalizeNames)
  (hholds : ∀ record, past'.Received start record → memory.cache.Holds record)

include hreliable hnormalize hholds

/-- What has been received is known. -/
theorem Memory.mem_known_of_received {record : Record} {query : Query}
    (hreceived : past'.Received start record) (htype : record.type = query.type)
    (hname : config.sameName record.name query.name = true) : record ∈ memory.known query := by
  obtain ⟨entry, hmem, rfl⟩ := List.mem_map.1 (hholds record hreceived)
  have hkey : memory.cache.key entry.record.query = memory.cache.key query :=
    (Cache.key_eq_key_iff hnormalize).2 ⟨hname, htype⟩
  have hlive := hreliable.live entry hmem
  apply Cache.mem_lookup.2
  refine ⟨entry, hmem, rfl, hkey, ?_⟩
  simpa [CacheEntry.isLive] using hlive

/-- An alias that has been received is known, up to the spelling of its target. -/
theorem Memory.exists_knownAlias?_eq {query : Query} {link : Record} {target : Name}
    (hreceived : past'.Received start link) (htype : link.type = .cname)
    (hdata : link.data = .cname target) (hcname : query.type ≠ .cname) (hany : query.type ≠ .any)
    (hname : config.sameName link.name query.name = true) :
    ∃ target', memory.knownAlias? query = some target' ∧
      config.sameName target target' = true := by
  have hlink : link ∈ memory.known { query with type := .cname } :=
    mem_known_of_received hreliable hnormalize hholds hreceived htype hname
  unfold knownAlias?
  rw [if_neg (by simp [hcname, hany])]
  cases hfound : (memory.known { query with type := .cname }).findSome? (·.data.aliasTarget?) with
  | none =>
    have hnone := List.findSome?_eq_none_iff.1 hfound link hlink
    rw [hdata] at hnone
    cases hnone
  | some target' =>
    refine ⟨target', rfl, ?_⟩
    obtain ⟨other, hother, htarget⟩ := List.exists_of_findSome?_eq_some hfound
    obtain ⟨entry, hmem, rfl, hkey, -⟩ := Cache.mem_lookup.1 hlink
    obtain ⟨entry', hmem', rfl, hkey', -⟩ := Cache.mem_lookup.1 hother
    have halias : target ∈ entry.record.data.aliasTarget? := by
      rw [hdata]
      rfl
    exact hreliable.agree entry hmem entry' hmem' (hkey.trans hkey'.symm) htype target halias
      target' htarget

/-- A record behind aliases is known, in as many steps as there are aliases.  The induction is on
the searches; their names need not be spelled as they were. -/
theorem Memory.knows_of_isChain {search : Search} {searches : List Search} {source : Record}
    {query : Query}
    (hchain : (search :: searches).IsChain (Search.GoesOn config start past query.type))
    (hpast : past <+: past') (hreceived : past'.Received start source)
    (htype : source.type = query.type)
    (hlast : config.sameName source.name (searches.getLastD search).name = true)
    (hany : query.type ≠ .any) (hname : config.sameName search.name query.name = true) :
    memory.Knows searches.length query := by
  induction searches generalizing search query with
  | nil =>
    have hsource := mem_known_of_received hreliable hnormalize hholds hreceived htype
      (Config.sameName_trans hlast hname)
    exact .records (List.ne_nil_of_mem hsource)
  | cons next searches ih =>
    obtain ⟨hgoes, hchain⟩ := List.isChain_cons_cons.1 hchain
    rw [List.getLastD_cons] at hlast
    obtain ⟨link, husable, hlinkType, hdata, howner⟩ := hgoes.leads
    have hlink := husable.received.later (hgoes.begun_prefix.trans hpast)
    have howner := Config.sameName_trans howner hname
    by_cases hcname : query.type = .cname
    · -- the alias itself is asked for
      have hknown := mem_known_of_received hreliable hnormalize hholds hlink
        (hlinkType.trans hcname.symm) howner
      exact .records (List.ne_nil_of_mem hknown)
    · obtain ⟨target', halias, hsame⟩ := exists_knownAlias?_eq hreliable hnormalize hholds hlink
        hlinkType hdata hcname hany howner
      exact .through halias (ih hchain htype hlast hany hsame)

end Evidence

/-! ## Lookups that are repeated -/

namespace Lifetime

variable {σ : Type}

/-- Nothing that has happened is forgotten. -/
theorem history_prefix_run (network : Network σ) (life : Lifetime σ) (uses : List Use) :
    life.history <+: (life.run network uses).history := by
  induction uses generalizing life with
  | nil => exact List.prefix_refl _
  | cons use uses ih =>
    refine List.IsPrefix.trans ?_ (ih (life.use network use))
    cases use with
    | lookup query => exact List.prefix_append _ _
    | wait milliseconds => exact List.prefix_append _ _
    | _ => exact List.prefix_refl _

/-- What has been received is stored. -/
theorem holds_of_received (config : Config) (network : Network σ) (state : σ) (uses : List Use)
    {record : Record} (h : ((begin config state).run network uses).history.Received 0 record) :
    ((begin config state).run network uses).resolver.memory.cache.Holds record := by
  rw [(recalls_begin_run config network state uses).cache_eq]
  exact Cache.holds_learned (.inr h)

/-- **A lookup that is repeated needs no network.**  A resolver that has been used in any way, on
any network, looks up the records of one type under a name and finds some.  After it has been used
further, in any way, the same records are looked up again, perhaps with another spelling of the
name.  If nothing that is stored has expired then, and no aliases contradict each other, there are
records again, and nothing is sent. -/
theorem lookup_again_of_ok (config : Config) (network : Network σ) (state : σ) (uses : List Use)
    (query : Query) (records : List Record) (hany : query.type ≠ .any)
    (hok : (((begin config state).run network uses).lookup network query).value.1 = .ok records)
    (hsome : records ≠ []) (between : List Use) (query' : Query)
    (hname : config.sameName query'.name query.name = true) (htype : query'.type = query.type)
    (hreliable : ((begin config state).run network
      (uses ++ .lookup query :: between)).resolver.memory.Reliable config) :
    let later := (begin config state).run network (uses ++ .lookup query :: between)
    let held := later.lookup network query'
    (∃ records', held.value.1 = .ok records' ∧ records' ≠ []) ∧
      ∀ occurrence ∈ held.transcript.history, occurrence.isExchange = false := by
  intro later held
  obtain ⟨searches, hlength, hevidence⟩ := exists_evidence config network state uses hany hok
  have hlater : later = (((begin config state).run network uses).use network
      (.lookup query)).run network between := run_append network _ uses _
  have hprefix : (((begin config state).run network uses).use network
      (.lookup query)).history <+: later.history := by
    rw [hlater]
    exact history_prefix_run network _ between
  obtain ⟨record, hrecord⟩ := List.exists_mem_of_ne_nil records hsome
  obtain ⟨source, husable, hlast, hsource, -, -⟩ := hevidence.sourced record hrecord
  have hnormalize : later.resolver.memory.cache.normalizeNames = config.normalizeNames := by
    rw [(recalls_begin_run config network state _).cache_eq, Cache.normalizeNames_learned]
    rfl
  have hlinked := hevidence.linked
  rw [← htype] at hsource hany hlinked
  have hknows : later.resolver.memory.Knows searches.length query' :=
    Memory.knows_of_isChain hreliable hnormalize
      (fun record => holds_of_received config network state _) hlinked hprefix
      (husable.received.later hprefix) hsource hlast hany (Config.sameName_symm hname)
  obtain ⟨server, hconfig⟩ := (begin config state).config_run network
    (uses ++ .lookup query :: between)
  have hlevels : searches.length ≤ later.resolver.config.maxIndirection := by
    rw [hconfig]
    exact hlength
  exact Resolver.of_ensures (Lookup.ensures_whole_of_knows hknows hlevels) network later.network

/-- A network on which `www.example.com` is an alias for `web.example.net`, and the root server
refers all queries about that name to the server at 10.0.0.2. -/
def delegatedAliasScript : Script where
  rules := [
    ⟨.v4 ⟨10, 0, 0, 1⟩, some ⟨"www.example.com"⟩, none, [.response true (·.addAnswer
      ⟨⟨"www.example.com"⟩, .cname, internetClass, 60, .cname ⟨"web.example.net"⟩⟩)]⟩,
    ⟨.v4 ⟨10, 0, 0, 1⟩, some ⟨"web.example.net"⟩, none, [.response false (·.addAdditional
      ⟨⟨"ns.example.net"⟩, .a, internetClass, 60, .a ⟨10, 0, 0, 2⟩⟩)]⟩,
    ⟨.v4 ⟨10, 0, 0, 2⟩, none, none, [.response true (·.addAnswer
      ⟨⟨"web.example.net"⟩, .a, internetClass, 60, .a ⟨192, 0, 2, 1⟩⟩)]⟩]
  nextId := 7

/-- The alias and its target are known from different servers when nobody answers any more at the
root server. -/
theorem lookup_again_of_delegatedAlias :
    let config : Config := { rootServer := .v4 ⟨10, 0, 0, 1⟩ }
    let query : Query := ⟨⟨"www.example.com"⟩, .a⟩
    let query' : Query := ⟨⟨"WWW.Example.com."⟩, .a⟩
    let records : List Record := [⟨⟨"www.example.com"⟩, .a, internetClass, 60, .a ⟨192, 0, 2, 1⟩⟩]
    let between : List Use := [.setRootServer (.v4 ⟨10, 0, 0, 9⟩), .wait 59999]
    let later := (begin config delegatedAliasScript).run Script.network
      ([] ++ .lookup query :: between)
    let held := later.lookup Script.network query'
    (((begin config delegatedAliasScript).run Script.network []).lookup Script.network
        query).value.1 = .ok records ∧
      config.sameName query'.name query.name = true ∧ later.resolver.memory.Reliable config ∧
      (∃ records', held.value.1 = .ok records' ∧ records' ≠ []) ∧
      ∀ occurrence ∈ held.transcript.history, occurrence.isExchange = false := by
  intro config query query' records between
  have hok : (((begin config delegatedAliasScript).run Script.network []).lookup Script.network
        query).value.1 = .ok records ∧ config.sameName query'.name query.name = true ∧
      ((begin config delegatedAliasScript).run Script.network
        ([] ++ .lookup query :: between)).resolver.memory.Reliable config := by
    decide +kernel
  exact ⟨hok.1, hok.2.1, hok.2.2, lookup_again_of_ok config Script.network delegatedAliasScript []
    query records (by decide) hok.1 (by decide) between query' hok.2.1 rfl hok.2.2⟩

end Lifetime

end IterativeDns
