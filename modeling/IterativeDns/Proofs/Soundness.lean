import IterativeDns.Proofs.Evidence
import IterativeDns.Resolution.Script

/-!
# Every answer has evidence

A lookup finds its answer in what is known, behind a known alias, in a response, or behind an alias
in a response, and it may come there through referrals, through nameservers that are looked up first
and through other aliases.  This file shows that there is evidence for the answer on every way,
whatever the servers send.

* `Lookup.Grounded` — a part of a lookup that answers a query has evidence for its answer, with
  fewer aliases than a number of levels.
* `Lookup.Spans` — a part of a lookup is one visit, as the search behind an alias is.
* `Lookup.grounded_resolve` — the two recursions of a lookup are grounded, by induction on the
  levels and, for one level, on the referrals that are left.
* `Lifetime.exists_evidence_of_ok` — **every answer of a resolver has evidence,** at any time of
  its life.
-/

namespace IterativeDns

namespace Lookup

variable {config : Config} {start memory : Memory} {past past₁ : History} {left : Nat}
  {query : Query}

/-- Memory and history agree after a part of a lookup, and if it ended with records there is
evidence for them, with fewer aliases than levels. -/
def Supported (config : Config) (start : Memory) (levels : Nat) (query : Query) (past : History)
    (answer : Answer) (memory' : Memory) (past' : History) : Prop :=
  start.Recalls memory' past' ∧ ∀ records, answer = .ok records →
    ∃ searches : List Search, searches.length < levels ∧
      Evidence config start.now past past' query searches records

/-- A part of a lookup answers a query with evidence, from any memory and history that agree. -/
def Grounded (config : Config) (start : Memory) (levels : Nat) (query : Query)
    (program : Lookup Answer) : Prop :=
  Satisfies start.Recalls (Supported config start levels query) program

/-- Evidence for an answer survives giving up, going on and taking notes. -/
theorem carries_supported (config : Config) (start : Memory) (levels : Nat) (query : Query) :
    CarriesNotes start.Recalls (Supported config start levels query) where
  again h := h.1
  failed _ h := ⟨h, fun _ hok => nomatch hok⟩
  widen hpast h := by
    refine ⟨h.1, fun records hok => ?_⟩
    obtain ⟨searches, hlength, hevidence⟩ := h.2 records hok
    exact ⟨searches, hlength, hevidence.widen hpast⟩
  noted step h := h.unmoved (.entry (.noted step)) rfl rfl
  noted_after step h := by
    refine ⟨h.1.unmoved (.entry (.noted step)) rfl rfl, fun records hok => ?_⟩
    obtain ⟨searches, hlength, hevidence⟩ := h.2 records hok
    exact ⟨searches, hlength, hevidence.noted step⟩

/-! ## Calls -/

/-- A part of a lookup is one visit for a query: all that happens in it lies between the beginning
and the end of the visit. -/
def Spans (purpose : Purpose) (query : Query) (program : Lookup Answer) : Prop :=
  ∀ memory past, program.Ensures memory past fun answer _ past' =>
    ∃ call : Call, past' = past ++ call.span ∧ call.visit.purpose = purpose ∧
      call.visit.query = query ∧ call.answer = answer

theorem spans_visiting (visit : Visit) (body : Lookup Answer) :
    Spans visit.purpose visit.query (visiting visit body) := by
  intro memory past
  refine Ensures.note_bind (Ensures.extends_past.bind ?_)
  rintro answer memory' past' ⟨inside, rfl⟩
  refine Ensures.note_bind (Ensures.pure ⟨⟨visit, inside, answer⟩, ?_, rfl, rfl, rfl⟩)
  simp [Call.span]

theorem spans_descend (nested : Purpose → Query → Lookup Answer) (depth left : Nat)
    (purpose : Purpose) (query : Query) (server : IpAddress) :
    Spans purpose query (descend config nested depth query left purpose server) := by
  cases left with
  | zero => exact spans_visiting _ _
  | succ left => exact spans_visiting _ _

theorem spans_resolve (levels : Nat) (purpose : Purpose) (query : Query) :
    Spans purpose query (resolve config levels purpose query) := by
  cases levels with
  | zero => exact spans_visiting _ _
  | succ left => exact spans_descend _ _ _ _ _ _

/-! ## One visit -/

/-- Behind an alias there is evidence with one alias more.  The alias has to count as one when the
search for its target begins. -/
theorem ensures_chase {nested : Purpose → Query → Lookup Answer} {target : Name}
    (hspans : Spans .aliasTarget { query with name := target }
      (nested .aliasTarget { query with name := target }))
    (hnested : Grounded config start left { query with name := target }
      (nested .aliasTarget { query with name := target }))
    (hrecalls : start.Recalls memory past₁)
    (hleads : config.Leads start.now past past₁ query.name target) :
    (chase nested query target).Ensures memory past₁
      (Supported config start (left + 1) query past) := by
  refine ((hnested memory past₁ hrecalls).and (hspans memory past₁)).bind ?_
  rintro (error | records) memory' past' ⟨⟨hrecalls', hevidence⟩, call, hspan, hpurpose, hquery,
    hanswer⟩
  · exact Ensures.pure ((carries_supported _ _ _ _).failed _ hrecalls')
  · refine Ensures.pure ⟨hrecalls', fun found hok => ?_⟩
    cases hok
    obtain ⟨searches, hlength, hevidence⟩ := hevidence records rfl
    exact ⟨⟨target, past₁⟩ :: searches, Nat.succ_lt_succ hlength,
      .through hleads hspan hpurpose hquery hanswer hevidence⟩

section Step

variable {nested : Purpose → Query → Lookup Answer} {onward : Option (IpAddress → Lookup Answer)}
  (hempty : start.cache = .empty config.normalizeNames)
  (hkeeps : ∀ purpose query, Keeps start.Recalls (nested purpose query))
  (hspans : ∀ purpose query, Spans purpose query (nested purpose query))
  (hnested : ∀ purpose query, query.type ≠ .any →
    Grounded config start left query (nested purpose query))
  (honward : ∀ visit ∈ onward, ∀ server, Grounded config start (left + 1) query (visit server))
  (htype : query.type ≠ .any)

include hempty hkeeps hspans hnested honward htype

/-- Whatever the response at hand means, there is evidence for what comes of it. -/
theorem ensures_act {message : Message} {recent : History}
    (hrecalls : start.Recalls memory (past ++ recent)) (hlatest : recent.latest? = some message)
    (server : IpAddress) :
    (act config nested onward query server (message.verdict config query)).Ensures memory
      (past ++ recent) (Supported config start (left + 1) query past) := by
  have hcarries := carries_supported config start (left + 1) query
  have hpast : past <+: past ++ recent := List.prefix_append past recent
  cases hverdict : message.verdict config query with
  | final found =>
    refine Ensures.pure ⟨hrecalls, fun records hok => ⟨[], Nat.succ_pos left, ?_⟩⟩
    cases hok
    rcases Message.eq_direct_of_verdict_eq_final htype hverdict with rfl | rfl
    · exact .nil
    · exact .direct fun record hmem => Message.usable_of_direct hlatest hmem
  | refused => exact Ensures.pure (hcarries.failed _ hrecalls)
  | aliased target =>
    exact ensures_chase (hspans _ _) (hnested _ _ htype) hrecalls
      (Message.leads_of_alias? hlatest (Message.alias?_of_verdict_eq_aliased hverdict))
  | unusable =>
    refine Ensures.get_bind ?_
    split
    · rename_i target hknown
      have hleads := hrecalls.leads_of_knownAlias? hempty hknown
      exact ensures_chase (hspans _ _) (hnested _ _ htype) hrecalls (hleads.widen hpast)
    · exact Ensures.pure (hcarries.failed _ hrecalls)
  | servers addresses =>
    exact hcarries.ensures_since (hcarries.tryServers config honward addresses) hrecalls hpast
  | nameservers names =>
    exact hcarries.ensures_since
      (hcarries.tryNameservers config (fun _ => hkeeps _ _) honward _ names) hrecalls hpast
  | deadEnd => exact Ensures.pure (hcarries.failed _ hrecalls)

/-- A visit is grounded if its sub-lookups and the visits that it refers to are. -/
theorem grounded_resolveAt (server : IpAddress) :
    Grounded config start (left + 1) query (resolveAt config nested onward query server) := by
  intro memory past hrecalls
  refine Ensures.get_bind ?_
  split
  · refine Ensures.get_bind ?_
    split
    · rename_i target hknown
      exact ensures_chase (hspans _ _) (hnested _ _ htype) hrecalls
        (hrecalls.leads_of_knownAlias? hempty hknown)
    · -- seen from the memory before the question, the response is the only one at hand
      have hasked : (ask config query server).Ensures memory [] _ :=
        ensures_ask query server (.refl memory)
      refine ((ensures_ask query server hrecalls).and hasked.since).bind ?_
      rintro (error | message) memory' past' ⟨hlearned, recent, rfl, hrecent⟩
      · exact Ensures.pure ((carries_supported _ _ _ _).failed error hlearned)
      · exact Ensures.modify_bind
          (ensures_act hempty hkeeps hspans hnested honward htype hlearned.1 hrecent.2 server)
  · refine Ensures.pure ⟨hrecalls, fun records hok => ⟨[], Nat.succ_pos left, ?_⟩⟩
    cases hok
    exact .direct fun record hmem => hrecalls.usable_of_known hempty hmem

end Step

/-! ## The two recursions -/

/-- **A lookup is grounded,** with fewer aliases than it has levels. -/
theorem grounded_resolve (hempty : start.cache = .empty config.normalizeNames) (levels : Nat)
    (purpose : Purpose) (htype : query.type ≠ .any) :
    Grounded config start levels query (resolve config levels purpose query) := by
  have hcarries := carries_supported config start levels query
  induction levels generalizing purpose query with
  | zero => exact hcarries.visiting (hcarries.error _) _
  | succ left ih =>
    have hkeeps := (invariant_recalls config start).keeps_resolve left
    have hnested : ∀ purpose query, query.type ≠ .any →
        Grounded config start left query (resolve config left purpose query) :=
      fun purpose query htype => ih purpose htype (carries_supported config start left query)
    exact hcarries.descend
      (fun _ honward =>
        grounded_resolveAt hempty hkeeps (spans_resolve left) hnested honward htype) _ _ _ _

theorem grounded_whole (hempty : start.cache = .empty config.normalizeNames)
    (htype : query.type ≠ .any) :
    Grounded config start (config.maxIndirection + 1) query (whole config query) := by
  have hcarries := carries_supported config start (config.maxIndirection + 1) query
  have hresolve := grounded_resolve hempty (config.maxIndirection + 1) .lookup htype
  refine hcarries.otherwise hresolve (fun _ => rfl) fun failure => ?_
  exact hcarries.after ((invariant_recalls config start).keeps_announce _) fun _ =>
    hcarries.error failure

end Lookup

namespace Lifetime

variable {σ : Type}

/-- There is evidence for the answer of a lookup, with no more aliases than the settings allow. -/
theorem exists_evidence (config : Config) (network : Network σ) (state : σ) (uses : List Use)
    {query : Query} {records : List Record} (htype : query.type ≠ .any)
    (hok : (((begin config state).run network uses).lookup network query).value.1 = .ok records) :
    let life := (begin config state).run network uses
    ∃ searches : List Search, searches.length ≤ config.maxIndirection ∧
      Evidence config 0 life.history (life.use network (.lookup query)).history query searches
        records := by
  intro life
  obtain ⟨server, hconfig⟩ := (begin config state).config_run network uses
  have hnormalize : life.resolver.config.normalizeNames = config.normalizeNames := by
    rw [hconfig]
    rfl
  have hlevels : life.resolver.config.maxIndirection = config.maxIndirection := by
    rw [hconfig]
    rfl
  have hempty : (Resolver.ofConfig config).memory.cache =
      .empty life.resolver.config.normalizeNames := by
    rw [hnormalize]
    rfl
  have hrecalls := recalls_begin_run config network state uses
  have hsupported := of_ensures (Lookup.grounded_whole hempty htype _ _ hrecalls) network
  obtain ⟨searches, hlength, hevidence⟩ := hsupported.2 records hok
  rw [hlevels] at hlength
  exact ⟨searches, Nat.le_of_lt_succ hlength, hevidence.congr hnormalize⟩

/-- **Every answer has evidence.**  After any uses of a new resolver, on any network, the records
that a lookup of one type answers with are records of the name that was asked about, or of a name
that it is an alias for through at most `maxIndirection` aliases; they have the type that was asked
for and data of its kind.  Each record and each alias stands in a message that arrived.  It was part
of the response that had been received last, or it had not expired: a record when the lookup ended,
and an alias when the search for what it stands for began. -/
theorem exists_evidence_of_ok (config : Config) (network : Network σ) (state : σ) (uses : List Use)
    (query : Query) (records : List Record) (htype : query.type ≠ .any)
    (hok : (((begin config state).run network uses).lookup network query).value.1 = .ok records) :
    let life := (begin config state).run network uses
    (∀ record ∈ records, record.type = query.type ∧ record.DataFits) ∧
    ∃ searches : List Search, searches.length ≤ config.maxIndirection ∧
      Evidence config 0 life.history (life.use network (.lookup query)).history query searches
        records := by
  intro life
  obtain ⟨searches, hlength, hevidence⟩ := exists_evidence config network state uses htype hok
  refine ⟨fun record hmem => ?_, searches, hlength, hevidence⟩
  obtain ⟨source, -, -, htype, hfits, rfl⟩ := hevidence.sourced record hmem
  split
  · exact ⟨htype, hfits⟩
  · exact ⟨htype, hfits⟩

/-- A network on which `www.example.com` is an alias, and the server at 10.0.0.1 knows for what. -/
def aliasScript : Script where
  rules := [
    ⟨.v4 ⟨10, 0, 0, 1⟩, some ⟨"www.example.com"⟩, none, [reply
      ⟨⟨"WWW.example.com"⟩, .cname, internetClass, 60, .cname ⟨"host.example.com"⟩⟩]⟩,
    ⟨.v4 ⟨10, 0, 0, 1⟩, some ⟨"host.example.com"⟩, none, [reply
      ⟨⟨"host.example.com"⟩, .a, internetClass, 60, .a ⟨192, 0, 2, 7⟩⟩]⟩]
  nextId := 7
where
  /-- A response with one answer, after twenty milliseconds. -/
  reply (record : Record) : ScriptedReply :=
    let flags := (Flags.none.setResponse true).setAuthoritative true
    ⟨20, .message ((Message.ofHeader (.empty 0 flags)).addAnswer record) 0 true none⟩

/-- The uses of a resolver by which it knows the target of the alias, but not the alias. -/
def aliasUses : List Use :=
  [.setRootServer (.v4 ⟨10, 0, 0, 1⟩), .lookup ⟨⟨"host.example.com"⟩, .a⟩, .wait 1000]

/-- The target of the alias is known from before, and the alias comes with the response. -/
theorem exists_evidence_of_alias :
    let query : Query := ⟨⟨"www.example.com"⟩, .a⟩
    let records : List Record := [⟨⟨"www.example.com"⟩, .a, internetClass, 60, .a ⟨192, 0, 2, 7⟩⟩]
    let life := (begin {} aliasScript).run Script.network aliasUses
    query.type ≠ .any ∧ (life.lookup Script.network query).value.1 = .ok records ∧
      (∀ record ∈ records, record.type = query.type ∧ record.DataFits) ∧
      ∃ searches : List Search, searches.length ≤ ({} : Config).maxIndirection ∧
        Evidence {} 0 life.history (life.use Script.network (.lookup query)).history query searches
          records := by
  have htype : RecordType.a ≠ .any := by decide
  have hok : (((begin {} aliasScript).run Script.network aliasUses).lookup Script.network
      ⟨⟨"www.example.com"⟩, .a⟩).value.1 =
        .ok [⟨⟨"www.example.com"⟩, .a, internetClass, 60, .a ⟨192, 0, 2, 7⟩⟩] := by
    decide +kernel
  exact ⟨htype, hok,
    exists_evidence_of_ok {} Script.network aliasScript aliasUses _ _ htype hok⟩

end Lifetime

end IterativeDns
