import IterativeDns.Proofs.Exhaustion
import IterativeDns.Proofs.Soundness

/-!
# Every datagram has a reason

A resolver asks no server that it was not told of and no query that nothing led to.  This file says
what counts as a reason for a server and for a query, in terms of the messages that had arrived, and
follows the reasons through all the ways of a lookup: addresses that come with a referral, addresses
that are looked up, aliases in responses and aliases that are known from earlier lookups.

* `Config.Trusts` — a server may be asked: it is the root server, or its address has arrived.
* `Config.Wants` — a query may be asked: it is that of the lookup, an alias that has arrived leads
  to it, or a referral that has arrived names its host.
* `Config.Justifies` — a datagram that is sent asks such a server such a query, and
  `History.Justified` — so do all that are sent in a part of a history.
* `Lookup.Standing` — the visits under way have their reasons, and so had all datagrams.  It is the
  invariant that all parts of a lookup keep.
* `Lifetime.lookup_justified` — **every datagram of every lookup has a reason.**
-/

namespace IterativeDns

/-! ## Reasons -/

/-- A server may be asked: it is the root server, or a record that has arrived holds its address. -/
inductive Config.Trusts (config : Config) (start : Instant) (past : History) :
    IpAddress → Prop where
  /-- It is the root server. -/
  | root : Trusts config start past config.rootServer
  /-- Its address has arrived. -/
  | received {record : Record} {address : IPv4} (hreceived : past.Received start record)
      (htype : record.type = .a) (hdata : record.data = .a address) :
      Trusts config start past (.v4 address)

/-- A query may be asked while visits are under way around it. -/
inductive Config.Wants (config : Config) (start : Instant) (past : History) (looked : Query)
    (outer : List Visit) : Query → Prop where
  /-- It is what is looked up. -/
  | looked : Wants config start past looked outer looked
  /-- The name of a query that is being resolved is an alias, and this is what it stands for. -/
  | aliasTarget {around : Visit} {link : Record} {target : Name} (haround : around ∈ outer)
      (hreceived : past.Received start link) (htype : link.type = .cname)
      (hdata : link.data = .cname target)
      (hname : config.sameName link.name around.query.name = true) :
      Wants config start past looked outer { around.query with name := target }
  /-- A referral names the host. -/
  | nameserver {arrival : Arrival} {record : Record} {host : Name}
      (harrived : arrival ∈ past.arrivals start) (hreferral : arrival.message.IsReferral)
      (hmem : record ∈ arrival.message.authorities) (htype : record.type = .ns)
      (hdata : record.data = .ns host) : Wants config start past looked outer ⟨host, .a⟩

/-- Whatever is sent asks a server that may be asked a query that may be asked, on behalf of the
innermost visit under way. -/
def Config.Justifies (config : Config) (start : Instant) (looked : Query) (past : History) :
    Occurrence → Prop
  | .exchanged request _ => ∃ visit outer id, past.underWay = visit :: outer ∧
      request.server = ⟨visit.server, config.port⟩ ∧
      request.payload = (Message.ofQuery id visit.query).encode ∧
      config.Trusts start past visit.server ∧ config.Wants start past looked outer visit.query
  | _ => True

/-- Whatever is sent in a part of a history has a reason in what happened before. -/
def History.Justified (config : Config) (start : Instant) (looked : Query)
    (past recent : History) : Prop :=
  Always (fun before occurrence _ => config.Justifies start looked before occurrence) past recent

/-- All visits under way have reasons: each asks a server that may be asked a query that may be
asked within the others. -/
inductive Config.Founded (config : Config) (start : Instant) (past : History) (looked : Query) :
    List Visit → Prop where
  /-- There are no visits. -/
  | nil : Founded config start past looked []
  /-- One more visit begins. -/
  | visit {visit : Visit} {outer : List Visit} (hserver : config.Trusts start past visit.server)
      (hquery : config.Wants start past looked outer visit.query)
      (houter : Founded config start past looked outer) :
      Founded config start past looked (visit :: outer)

section Reasons

variable {config : Config} {start : Instant} {past past' : History} {looked query : Query}
  {outer outer' visits : List Visit} {server : IpAddress}

/-- Reasons are never lost. -/
theorem Config.Trusts.later (h : config.Trusts start past server) (hpast : past <+: past') :
    config.Trusts start past' server := by
  cases h with
  | root => exact .root
  | received hreceived htype hdata => exact .received (hreceived.later hpast) htype hdata

theorem Config.Wants.later (h : config.Wants start past looked outer query)
    (hpast : past <+: past') (houter : outer ⊆ outer') :
    config.Wants start past' looked outer' query := by
  cases h with
  | looked => exact .looked
  | aliasTarget haround hreceived htype hdata hname =>
    exact .aliasTarget (houter haround) (hreceived.later hpast) htype hdata hname
  | nameserver harrived hreferral hmem htype hdata =>
    exact .nameserver (History.mem_arrivals_later harrived hpast) hreferral hmem htype hdata

theorem Config.Founded.later (h : config.Founded start past looked visits)
    (hpast : past <+: past') : config.Founded start past' looked visits := by
  induction h with
  | nil => exact .nil
  | visit hserver hquery _ ih =>
    exact .visit (hserver.later hpast) (hquery.later hpast (List.Subset.refl _)) ih

theorem Config.Founded.tail (h : config.Founded start past looked visits) :
    config.Founded start past looked visits.tail := by
  cases h with
  | nil => exact .nil
  | visit hserver hquery houter => exact houter

/-! ## Reasons in messages -/

theorem Record.type_eq_ns {record : Record} {host : Name} (hfits : record.DataFits)
    (hdata : record.data = .ns host) : record.type = .ns := by
  rw [DataFits, hdata] at hfits
  cases htype : record.type <;> simp [htype, RecordData.type?, RecordType.dataType?] at hfits
  rfl

/-- Addresses of records that hold data of their kind are those of servers that may be asked. -/
theorem Config.trusts_of_mem_addressesOf {records : List Record}
    (hrecords : ∀ record ∈ records, ∃ source, past.Received start source ∧ source.type = .a ∧
      source.data = record.data)
    (hserver : server ∈ addressesOf records) : config.Trusts start past server := by
  obtain ⟨record, hmem, haddress⟩ := List.mem_filterMap.1 (List.mem_eraseDups.1 hserver)
  obtain ⟨source, hreceived, htype, hdata⟩ := hrecords record hmem
  obtain ⟨address, hsource⟩ := Record.exists_data_eq_a hreceived.dataFits htype
  rw [← hdata, hsource] at haddress
  cases haddress
  exact .received hreceived htype hsource

/-- Evidence for addresses is evidence for servers. -/
theorem Evidence.trusts {before : History} {searches : List Search} {records : List Record}
    (h : Evidence config start before past query searches records) (htype : query.type = .a)
    (hserver : server ∈ addressesOf records) : config.Trusts start past server := by
  refine Config.trusts_of_mem_addressesOf (fun record hmem => ?_) hserver
  obtain ⟨source, husable, -, hsame, -, rfl⟩ := h.sourced record hmem
  refine ⟨source, husable.received, hsame.trans htype, ?_⟩
  split <;> rfl

variable {message : Message} {moment : Instant}

theorem Message.trusts_of_mem_glue (harrived : ⟨message, moment⟩ ∈ past.arrivals start)
    (hserver : server ∈ message.glue) : config.Trusts start past server := by
  refine Config.trusts_of_mem_addressesOf (fun record hmem => ?_) hserver
  obtain ⟨hadditional, htype⟩ := List.mem_filter.1 hmem
  have hrecord : record ∈ message.records := List.mem_append_right _ hadditional
  exact ⟨record, ⟨_, harrived, hrecord⟩, by simpa using htype, rfl⟩

theorem Message.eq_glue_of_verdict_eq_servers {servers : List IpAddress}
    (h : message.verdict config query = .servers servers) : servers = message.glue := by
  unfold Message.verdict Message.answerVerdict Message.referralVerdict at h
  grind

/-- A response that leads to nameservers is a referral to them. -/
theorem Message.isReferral_of_verdict_eq_nameservers {names : List Name}
    (harrived : ⟨message, moment⟩ ∈ past.arrivals start)
    (h : message.verdict config query = .nameservers names) :
    message.IsReferral ∧ names = message.delegates := by
  obtain ⟨payload, hdecode⟩ := History.decode_of_mem_arrivals harrived
  have hresponse := ResponseCode.fault?_eq_none_iff.1 (Message.fault?_of_decode hdecode)
  unfold Message.verdict Message.answerVerdict Message.referralVerdict at h
  unfold Message.IsReferral
  grind [List.isEmpty_iff]

theorem Message.wants_of_mem_delegates {name : Name}
    (harrived : ⟨message, moment⟩ ∈ past.arrivals start) (hreferral : message.IsReferral)
    (hname : name ∈ message.delegates) : config.Wants start past looked outer ⟨name, .a⟩ := by
  obtain ⟨record, hmem, hhost⟩ := List.mem_filterMap.1 (List.mem_eraseDups.1 hname)
  have hrecord : record ∈ message.records :=
    List.mem_append_left _ (List.mem_append_right _ hmem)
  have hdata : record.data = .ns name := by
    cases hdata : record.data <;> simp [hdata, RecordData.nameserver?] at hhost
    rw [hhost]
  have hreceived : past.Received start record := ⟨_, harrived, hrecord⟩
  exact .nameserver harrived hreferral hmem (Record.type_eq_ns hreceived.dataFits hdata) hdata

/-- What an alias in a response stands for may be asked while its name is being resolved. -/
theorem Message.wants_of_alias? {visit : Visit} {target : Name}
    (harrived : ⟨message, moment⟩ ∈ past.arrivals start)
    (halias : message.alias? config visit.query = some target) (hvisit : visit ∈ outer) :
    config.Wants start past looked outer { visit.query with name := target } := by
  obtain ⟨link, hlink, htarget⟩ := List.exists_of_findSome?_eq_some halias
  obtain ⟨hmem, hname⟩ := List.mem_filter.1 hlink
  have hreceived : past.Received start link :=
    ⟨_, harrived, Message.mem_records_of_mem_answers hmem⟩
  have hdata := RecordData.eq_cname htarget
  exact .aliasTarget hvisit hreceived (Record.type_eq_cname hreceived.dataFits hdata) hdata hname

/-- What a known alias stands for may be asked while its name is being resolved. -/
theorem Config.wants_of_leads {visit : Visit} {before : History} {target : Name}
    (h : config.Leads start before past visit.query.name target) (hvisit : visit ∈ outer) :
    config.Wants start past looked outer { visit.query with name := target } := by
  obtain ⟨link, husable, htype, hdata, hname⟩ := h
  exact .aliasTarget hvisit husable.received htype hdata hname

end Reasons

/-- Whatever is sent while a server is asked goes to that server and asks it the query. -/
theorem Visit.Asks.sends {config : Config} {visit : Visit} {asked : History}
    {result : Except ResolutionError Message} (h : visit.Asks config asked result)
    {request : Request} {delivery : Delivery} (hmem : .exchanged request delivery ∈ asked) :
    visit.Sends config request := by
  cases h with
  | failed hawaits hsent hbranch => exact (hawaits _ hmem).sends request delivery rfl
  | answered hawaits hsends hanswer hafter =>
    rcases List.mem_append.1 hmem with hmem | hmem
    · exact (hawaits _ hmem).sends request delivery rfl
    · rcases List.mem_cons.1 hmem with heq | hmem
      · cases heq
        exact hsends
      · cases (hafter _ hmem).2

/-- What is sent on behalf of a visit has a reason if the visit has. -/
theorem Visit.Asks.justified {config : Config} {start : Instant} {past asked : History}
    {looked : Query} {visit : Visit} {outer : List Visit} {result : Except ResolutionError Message}
    (h : visit.Asks config asked result) (hunderWay : past.underWay = visit :: outer)
    (hserver : config.Trusts start past visit.server)
    (hquery : config.Wants start past looked outer visit.query) :
    History.Justified config start looked past asked := by
  rintro before (⟨_ | ⟨request, delivery⟩ | _⟩ | _) rest rfl
  case entry.exchanged =>
    obtain ⟨id, rfl⟩ := h.sends (List.mem_append_right _ List.mem_cons_self)
    have hpast : past <+: past ++ before := List.prefix_append past before
    refine ⟨visit, outer, id, ?_, rfl, rfl, hserver.later hpast,
      hquery.later hpast (List.Subset.refl _)⟩
    rw [History.underWay_append_of_steady fun occurrence hmem =>
      h.steady occurrence (List.mem_append_left _ hmem), hunderWay]
  all_goals trivial

namespace Lookup

/-- The visits under way have their reasons, and so has had every datagram since a history. -/
structure Standing (config : Config) (start : Memory) (looked : Query) (base : History)
    (visits : List Visit) (memory : Memory) (past : History) : Prop where
  /-- Memory and history agree. -/
  recalls : start.Recalls memory past
  /-- Just these visits are under way. -/
  underWay : past.underWay = visits
  /-- They have their reasons. -/
  founded : config.Founded start.now past looked visits
  /-- So has had every datagram. -/
  justified : ∃ recent, past = base ++ recent ∧
    History.Justified config start.now looked base recent

section Steps

variable {config : Config} {start memory memory' : Memory} {looked : Query}
  {base past recent : History} {visits outer : List Visit} {visit : Visit}

/-- Something happens that leads to other visits under way. -/
theorem Standing.append {visits' : List Visit}
    (h : Standing config start looked base visits memory past)
    (hrecalls : start.Recalls memory' (past ++ recent))
    (hunderWay : (past ++ recent).underWay = visits')
    (hfounded : config.Founded start.now (past ++ recent) looked visits')
    (hjustified : History.Justified config start.now looked past recent) :
    Standing config start looked base visits' memory' (past ++ recent) := by
  obtain ⟨since, rfl, hsince⟩ := h.justified
  exact ⟨hrecalls, hunderWay, hfounded, since ++ recent, List.append_assoc ..,
    History.Always.append hsince hjustified⟩

/-- A note about visits is no datagram. -/
theorem Standing.noted {step : Step} {visits' : List Visit}
    (h : Standing config start looked base visits memory past)
    (hunderWay : (past ++ [Occurrence.entry (.noted step)]).underWay = visits')
    (hfounded : config.Founded start.now (past ++ [Occurrence.entry (.noted step)]) looked
      visits') :
    Standing config start looked base visits' memory (past ++ [Occurrence.entry (.noted step)]) :=
  h.append (h.recalls.unmoved (.entry (.noted step)) rfl rfl) hunderWay hfounded
    (History.Always.cons trivial .nil)

theorem standing_announce (event : TraceEvent) :
    Keeps (Standing config start looked base visits) (announce event) := by
  intro memory past h
  refine (ensures_announce event).mono ?_
  rintro - memory' past' ⟨hcache, hnow, rfl | rfl⟩
  · exact { h with recalls := h.recalls.congr hcache hnow }
  · have hunderWay : (past ++ [Occurrence.entry (.noted (.traced event))]).underWay = visits := by
      rw [History.underWay_append_singleton, h.underWay]
      rfl
    have hnoted := h.noted hunderWay (h.founded.later (List.prefix_append past _))
    exact { hnoted with recalls := hnoted.recalls.congr hcache hnow }

/-- **What is sent on behalf of a visit has its reason,** and an answer that comes has arrived. -/
theorem Standing.ensures_ask (h : Standing config start looked base (visit :: outer) memory past) :
    (ask config visit.query visit.server).Ensures memory past fun result memory' past' =>
      match result with
      | .error _ => Standing config start looked base (visit :: outer) memory' past'
      | .ok message =>
        Standing config start looked base (visit :: outer) (memory'.learn message) past' ∧
          ∃ moment, ⟨message, moment⟩ ∈ past'.arrivals start.now := by
  have hasked : (ask config visit.query visit.server).Ensures memory past _ :=
    Lookup.ensures_ask visit.query visit.server h.recalls
  refine (hasked.and (asks_ask visit).since).mono ?_
  rintro result memory' _ ⟨hlearned, asked, rfl, hasks⟩
  have hunderWay : (past ++ asked).underWay = visit :: outer := by
    rw [History.underWay_append_of_steady hasks.steady, h.underWay]
  have hfounded := h.founded.later (List.prefix_append past asked)
  obtain ⟨⟩ | ⟨hserver, hquery, -⟩ := h.founded
  have hjustified := hasks.justified h.underWay hserver hquery
  cases result with
  | error error => exact h.append hlearned hunderWay hfounded hjustified
  | ok message =>
    exact ⟨h.append hlearned.1 hunderWay hfounded hjustified,
      History.exists_mem_arrivals_of_latest? hlearned.2⟩

/-- A visit that has its reasons begins and ends. -/
theorem Standing.ensures_visiting {body : Lookup Answer}
    (hbody : Keeps (Standing config start looked base (visit :: outer)) body)
    (h : Standing config start looked base outer memory past)
    (hserver : config.Trusts start.now past visit.server)
    (hquery : config.Wants start.now past looked outer visit.query) :
    (visiting visit body).Ensures memory past fun _ memory' past' =>
      Standing config start looked base outer memory' past' := by
  have hbegun := (Config.Founded.visit hserver hquery h.founded).later
    (List.prefix_append past [Occurrence.entered visit])
  have hentered : Standing config start looked base (visit :: outer) memory _ :=
    h.noted (by rw [History.underWay_append_entered, h.underWay]) hbegun
  refine Ensures.note_bind ((hbody memory _ hentered).bind fun answer memory' past' h' => ?_)
  have hended := h'.founded.tail.later
    (List.prefix_append past' [Occurrence.left visit answer])
  have hleft : Standing config start looked base outer memory' _ :=
    h'.noted (by rw [History.underWay_append_left, h'.underWay]; rfl) hended
  exact Ensures.note_bind (Ensures.pure hleft)

end Steps

/-! ## Following up -/

section Parts

variable {config : Config} {start memory : Memory} {looked query : Query} {base past : History}
  {visits : List Visit}

/-- All that is standing stays so wherever a server that may be asked is visited. -/
def VisitsStanding (config : Config) (start : Memory) (looked : Query) (base : History)
    (visits : List Visit) (next : IpAddress → Lookup Answer) : Prop :=
  ∀ server, Satisfies
    (fun memory past => Standing config start looked base visits memory past ∧
      config.Trusts start.now past server)
    (fun _ _ memory' past' => Standing config start looked base visits memory' past')
    (next server)

/-- All that is standing stays so wherever a query that may be asked is resolved. -/
def ResolvesStanding (config : Config) (start : Memory) (looked : Query) (base : History)
    (visits : List Visit) (nested : Purpose → Query → Lookup Answer) : Prop :=
  ∀ purpose query, Satisfies
    (fun memory past => Standing config start looked base visits memory past ∧
      config.Wants start.now past looked visits query)
    (fun _ _ memory' past' => Standing config start looked base visits memory' past')
    (nested purpose query)

theorem standing_tryEach {next : IpAddress → Lookup Answer}
    (hnext : VisitsStanding config start looked base visits next) (last : ResolutionError)
    {servers : List IpAddress} (h : Standing config start looked base visits memory past)
    (hservers : ∀ server ∈ servers, config.Trusts start.now past server) :
    (tryEach next last servers).Ensures memory past fun _ memory' past' =>
      Standing config start looked base visits memory' past' := by
  induction servers generalizing last memory past with
  | nil => exact Ensures.pure h
  | cons server servers ih =>
    obtain ⟨hserver, hrest⟩ := List.forall_mem_cons.1 hservers
    refine ((hnext server memory past ⟨h, hserver⟩).and Ensures.extends_past).bind ?_
    rintro (error | records) memory' past' ⟨h', hpast⟩
    · show Ensures (if error.isLookupWide = true then _ else _) _ _ _
      split
      · exact Ensures.pure h'
      · exact ih error h' fun other hmem => (hrest other hmem).later hpast
    · exact Ensures.pure h'

variable {nested : Purpose → Query → Lookup Answer} {onward : Option (IpAddress → Lookup Answer)}
  (honward : ∀ next ∈ onward, VisitsStanding config start looked base visits next)

include honward

theorem standing_tryServers {servers : List IpAddress}
    (h : Standing config start looked base visits memory past)
    (hservers : ∀ server ∈ servers, config.Trusts start.now past server) :
    (tryServers config onward servers).Ensures memory past fun _ memory' past' =>
      Standing config start looked base visits memory' past' := by
  cases onward with
  | none => exact Ensures.pure h
  | some next => exact standing_tryEach (honward next rfl) _ h hservers

variable (hnested : ResolvesStanding config start looked base visits nested)

include hnested

/-- The addresses that the lookup of a nameserver brings have arrived. -/
theorem standing_tryNameservers {levels : Nat}
    (hgrounded : ∀ purpose (query : Query), query.type ≠ .any →
      Grounded config start levels query (nested purpose query))
    (last : ResolutionError) {names : List Name}
    (h : Standing config start looked base visits memory past)
    (hnames : ∀ name ∈ names, config.Wants start.now past looked visits ⟨name, .a⟩) :
    (tryNameservers config nested onward last names).Ensures memory past fun _ memory' past' =>
      Standing config start looked base visits memory' past' := by
  induction names generalizing last memory past with
  | nil => exact Ensures.pure h
  | cons name names ih =>
    obtain ⟨hname, hrest⟩ := List.forall_mem_cons.1 hnames
    have hrest : ∀ past', past <+: past' → ∀ other ∈ names,
        config.Wants start.now past' looked visits ⟨other, .a⟩ := fun past' hpast other hmem =>
      (hrest other hmem).later hpast (List.Subset.refl _)
    have hlookup := (hnested .nameserver ⟨name, .a⟩ memory past ⟨h, hname⟩).and
      (hgrounded .nameserver ⟨name, .a⟩ (show RecordType.a ≠ .any by decide) memory past h.recalls)
    refine (hlookup.and Ensures.extends_past).bind ?_
    rintro (error | records) memory₁ past₁ ⟨⟨h₁, hsupported⟩, hpast₁⟩
    · show Ensures (if error.isLimit = true then _ else _) _ _ _
      split
      · exact Ensures.pure h₁
      · exact ih last h₁ (hrest past₁ hpast₁)
    · obtain ⟨searches, -, hevidence⟩ := hsupported.2 records rfl
      dsimp only
      split
      · exact ih last h₁ (hrest past₁ hpast₁)
      · have hservers : ∀ server ∈ addressesOf records, config.Trusts start.now past₁ server :=
          fun server hmem => hevidence.trusts rfl hmem
        refine ((standing_tryServers honward h₁ hservers).and Ensures.extends_past).bind ?_
        rintro (error | found) memory₂ past₂ ⟨h₂, hpast₂⟩
        · show Ensures (if error.isLookupWide = true then _ else _) _ _ _
          split
          · exact Ensures.pure h₂
          · exact ih error h₂ (hrest past₂ (hpast₁.trans hpast₂))
        · exact Ensures.pure h₂

omit honward in
theorem standing_chase {target : Name}
    (h : Standing config start looked base visits memory past)
    (htarget : config.Wants start.now past looked visits { query with name := target }) :
    (chase nested query target).Ensures memory past fun _ memory' past' =>
      Standing config start looked base visits memory' past' := by
  refine (hnested .aliasTarget _ memory past ⟨h, htarget⟩).bind fun answer memory' past' h' => ?_
  cases answer with
  | ok records => exact Ensures.pure h'
  | error error => exact Ensures.pure h'

end Parts

/-! ## Visits -/

section Visits

variable {config : Config} {start memory : Memory} {looked : Query} {base past : History}
  {visit : Visit} {outer : List Visit} {levels : Nat}
  {nested : Purpose → Query → Lookup Answer} {onward : Option (IpAddress → Lookup Answer)}
  (hempty : start.cache = .empty config.normalizeNames)
  (honward : ∀ next ∈ onward, VisitsStanding config start looked base (visit :: outer) next)
  (hnested : ResolvesStanding config start looked base (visit :: outer) nested)
  (hgrounded : ∀ purpose (query : Query), query.type ≠ .any →
    Grounded config start levels query (nested purpose query))

include hempty honward hnested hgrounded

/-- Whatever the response at hand means, what it leads to has a reason in it. -/
theorem standing_act {message : Message} {moment : Instant}
    (h : Standing config start looked base (visit :: outer) memory past)
    (harrived : ⟨message, moment⟩ ∈ past.arrivals start.now) :
    (act config nested onward visit.query visit.server
      (message.verdict config visit.query)).Ensures memory past fun _ memory' past' =>
        Standing config start looked base (visit :: outer) memory' past' := by
  cases hverdict : message.verdict config visit.query with
  | final records => exact Ensures.pure h
  | refused => exact Ensures.pure h
  | aliased target =>
    exact standing_chase hnested h (Message.wants_of_alias? harrived
      (Message.alias?_of_verdict_eq_aliased hverdict) List.mem_cons_self)
  | unusable =>
    refine Ensures.get_bind ?_
    split
    · rename_i target hknown
      exact standing_chase hnested h (Config.wants_of_leads
        (h.recalls.leads_of_knownAlias? hempty hknown) List.mem_cons_self)
    · exact Ensures.pure h
  | servers addresses =>
    obtain rfl := Message.eq_glue_of_verdict_eq_servers hverdict
    exact standing_tryServers honward h fun server hmem =>
      Message.trusts_of_mem_glue harrived hmem
  | nameservers names =>
    obtain ⟨hreferral, rfl⟩ := Message.isReferral_of_verdict_eq_nameservers harrived hverdict
    exact standing_tryNameservers honward hnested hgrounded _ h fun name hmem =>
      Message.wants_of_mem_delegates harrived hreferral hmem
  | deadEnd => exact Ensures.pure h

theorem standing_resolveAt :
    Keeps (Standing config start looked base (visit :: outer))
      (resolveAt config nested onward visit.query visit.server) := by
  intro memory past h
  refine Ensures.get_bind ?_
  split
  · refine Ensures.get_bind ?_
    split
    · rename_i target hknown
      exact standing_chase hnested h (Config.wants_of_leads
        (h.recalls.leads_of_knownAlias? hempty hknown) List.mem_cons_self)
    · refine h.ensures_ask.bind ?_
      rintro (error | message) memory' past' hasked
      · exact Ensures.pure hasked
      · obtain ⟨h', moment, harrived⟩ := hasked
        exact Ensures.modify_bind
          (standing_act hempty honward hnested hgrounded h' harrived)
  · exact Ensures.pure h

end Visits

/-! ## The two recursions -/

section Recursions

variable {config : Config} {start : Memory} {looked : Query} {base : History}
  (hempty : start.cache = .empty config.normalizeNames)

include hempty

/-- By induction on the referrals that are left.  A server that was referred to is visited for the
same query, within the visit that was referred to it. -/
theorem standing_descend {nested : Purpose → Query → Lookup Answer} {levels : Nat}
    (hnested : ∀ visits, ResolvesStanding config start looked base visits nested)
    (hgrounded : ∀ purpose (query : Query), query.type ≠ .any →
      Grounded config start levels query (nested purpose query))
    (depth left : Nat) (purpose : Purpose) (query : Query) (server : IpAddress)
    (outer : List Visit) :
    Satisfies
      (fun memory past => Standing config start looked base outer memory past ∧
        config.Trusts start.now past server ∧ config.Wants start.now past looked outer query)
      (fun _ _ memory' past' => Standing config start looked base outer memory' past')
      (descend config nested depth query left purpose server) := by
  induction left generalizing purpose server outer with
  | zero =>
    rintro memory past ⟨h, hserver, hquery⟩
    refine Standing.ensures_visiting (standing_resolveAt hempty ?_ (hnested _) hgrounded) h hserver
      hquery
    intro next hnext
    cases hnext
  | succ left ih =>
    rintro memory past ⟨h, hserver, hquery⟩
    refine Standing.ensures_visiting (standing_resolveAt hempty ?_ (hnested _) hgrounded) h hserver
      hquery
    rintro next ⟨⟩ other memory' past' ⟨h', hother⟩
    obtain ⟨⟩ | ⟨-, hquery', -⟩ := h'.founded
    exact ih .referral other _ memory' past' ⟨h', hother,
      hquery'.later (List.prefix_refl past') (List.subset_cons_self _ _)⟩

/-- By induction on the levels that are left.  Every name is looked up from the root. -/
theorem standing_resolve (levels : Nat) (visits : List Visit) :
    ResolvesStanding config start looked base visits (resolve config levels) := by
  induction levels generalizing visits with
  | zero =>
    rintro purpose query memory past ⟨h, hquery⟩
    exact Standing.ensures_visiting (Keeps.pure _) h .root hquery
  | succ left ih =>
    rintro purpose query memory past ⟨h, hquery⟩
    exact standing_descend hempty ih
      (fun purpose query htype => grounded_resolve hempty left purpose htype) _ _ _ _ _ _ memory
      past ⟨h, .root, hquery⟩

/-- **All of a lookup has its reasons.** -/
theorem standing_whole :
    Keeps (Standing config start looked base []) (whole config looked) := by
  intro memory past h
  refine (standing_resolve hempty _ [] .lookup looked memory past ⟨h, .looked⟩).bind ?_
  rintro (reason | records) memory' past' h'
  · exact (standing_announce _ memory' past' h').bind fun _ _ _ h'' => Ensures.pure h''
  · exact Ensures.pure h'

end Recursions

end Lookup

/-! ## All of a lifetime -/

namespace Lifetime

variable {σ : Type}

/-- Between the uses of a resolver no visit is under way. -/
theorem underWay_run (network : Network σ) {life : Lifetime σ} (h : life.history.underWay = [])
    (uses : List Use) : (life.run network uses).history.underWay = [] := by
  induction uses generalizing life with
  | nil => exact h
  | cons use uses ih =>
    refine ih ?_
    cases use with
    | lookup query =>
      have hended := (life.resolver.orderly_lookup query network life.network).2
      rw [History.underWay] at h hended
      show (life.history ++ _).foldl Occurrence.track [] = []
      rw [List.foldl_append, h]
      exact hended
    | wait milliseconds =>
      show (life.history ++ [_]).underWay = []
      rw [History.underWay_append_singleton, h]
      rfl
    | _ => exact h

/-- **Every datagram has a reason.**  After any uses of a new resolver, on any network, whatever a
lookup sends goes, on the port of the settings, to the root server of the time or to an address in a
record of a message that had arrived, and asks one question: what is looked up, what an alias in a
message that had arrived stands for, whose name was being looked up for the same type, or the
address of a host that a referral names which had arrived.  What is no answer to a request never
arrives, and so gives no reason. -/
theorem lookup_justified (config : Config) (network : Network σ) (state : σ) (uses : List Use)
    (query : Query) :
    let life := (begin config state).run network uses
    History.Justified life.resolver.config 0 query life.history
      (life.lookup network query).transcript.history := by
  intro life
  obtain ⟨server, hconfig⟩ := (begin config state).config_run network uses
  have hempty : (Resolver.ofConfig config).memory.cache =
      .empty life.resolver.config.normalizeNames := by
    rw [hconfig]
    rfl
  have hbegin : Lookup.Standing life.resolver.config (Resolver.ofConfig config).memory query
      life.history [] life.resolver.memory life.history :=
    ⟨recalls_begin_run config network state uses, underWay_run network rfl uses, .nil, [], by simp,
      History.Always.nil⟩
  have hended := of_ensures (Lookup.standing_whole hempty _ _ hbegin) network
  obtain ⟨recent, hrecent, hjustified⟩ := hended.justified
  rwa [List.append_cancel_left hrecent]

end Lifetime

end IterativeDns
