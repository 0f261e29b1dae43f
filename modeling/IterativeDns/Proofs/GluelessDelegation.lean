import IterativeDns.Proofs.Failover

/-!
# Nameservers without an address

A referral may name servers whose addresses do not come with it.  They have to be looked up from the
root before the servers can be asked, one nameserver after the other: what is behind the name of the
first is tried before the name of the second is looked up.

* `Message.DelegatesTo` — a message refers a query to nameservers, and says nothing else.
* `Conduct.Locates` — what asking for the addresses of a nameserver brings.
* `Delegation` — what is behind the names of nameservers, and `Delegation.contacts` — the contacts
  by which a query is put to all servers behind one of them.
* `Lookup.contacts_tryNameservers` — **nameservers that do not help are passed over,** whether they
  have addresses or not.
* `Resolver.lookup_tries_nameservers` — **a lookup finds the first server that answers behind the
  names,** and it contacts what comes before, and nothing else.
-/

namespace IterativeDns

/-! ## Referrals to nameservers -/

/-- Nothing is known about a query, nor about the addresses of the hosts. -/
def Memory.IgnoresHosts (config : Config) (query : Query) (hosts : List Name) (memory : Memory) :
    Prop :=
  memory.Ignores config query ∧ ∀ host ∈ hosts, memory.Ignores config ⟨host, .a⟩

/-- The message refers a query to nameservers of these names, and it holds nothing else.  The
nameservers are not those of the name of the query itself. -/
structure Message.DelegatesTo (config : Config) (query : Query) (hosts : List Name)
    (message : Message) : Prop where
  /-- It is a referral. -/
  isReferral : message.IsReferral
  /-- No addresses come with it. -/
  additionals_eq_nil : message.additionals = []
  /-- It names the nameservers of another name. -/
  nameservers : ∀ record ∈ message.authorities,
    record.type = .ns ∧ config.sameName record.name query.name = false
  /-- These are the nameservers, each once. -/
  delegates_eq : message.delegates = hosts

instance (config : Config) (query : Query) (hosts : List Name) (message : Message) :
    Decidable (message.DelegatesTo config query hosts) :=
  decidable_of_iff (_ ∧ _ ∧ _ ∧ _) ⟨fun h => ⟨h.1, h.2.1, h.2.2.1, h.2.2.2⟩,
    fun h => ⟨h.isReferral, h.additionals_eq_nil, h.nameservers, h.delegates_eq⟩⟩

namespace Message.DelegatesTo

variable {config : Config} {query : Query} {hosts : List Name} {message : Message}

theorem verdict (h : message.DelegatesTo config query hosts) (hsome : hosts ≠ []) :
    message.verdict config query = .nameservers hosts := by
  obtain ⟨host, hmem⟩ := List.exists_mem_of_ne_nil hosts hsome
  have hdelegate : host ∈ message.delegates := by rwa [h.delegates_eq]
  have hglue : message.glue = [] := Message.glue_eq_nil (by simp [h.additionals_eq_nil])
  rw [h.isReferral.verdict, referralVerdict_of_mem_delegates hglue hdelegate, h.delegates_eq]

theorem type_of_mem_records (h : message.DelegatesTo config query hosts) {record : Record}
    (hmem : record ∈ message.records) :
    record.type = .ns ∧ config.sameName record.name query.name = false := by
  apply h.nameservers
  simpa [records, h.isReferral.2.2, h.additionals_eq_nil] using hmem

/-- Neither the query nor any address is spoken of. -/
theorem ignoresHosts (h : message.DelegatesTo config query hosts) {memory : Memory}
    {others : List Name} (hignores : memory.IgnoresHosts config query others) :
    (memory.learn message).IgnoresHosts config query others := by
  refine ⟨hignores.1.learn fun record hmem hconcerns => ?_,
    fun host hhost => (hignores.2 host hhost).learn fun record hmem hconcerns => ?_⟩
  · have hother := (h.type_of_mem_records hmem).2
    rw [hconcerns.2] at hother
    cases hother
  · have htype := (h.type_of_mem_records hmem).1
    rcases hconcerns.1 with heq | heq <;> simp [htype] at heq

end Message.DelegatesTo

/-! ## Addresses of nameservers -/

/-- Asking a server of the conduct for the addresses of a host brings these addresses. -/
inductive Conduct.Locates (config : Config) (server : IpAddress) (host : Name) :
    Conduct → List IpAddress → Prop where
  /-- The server does not help. -/
  | fails {conduct : Conduct} {reason : ResolutionError}
      (hfails : conduct.Fails config server reason) : Locates config server host conduct []
  /-- There is no such name, or it has no addresses. -/
  | denies {such : Message → Prop}
      (hsuch : ∀ message, such message → message.IsNegative ∧ message.records = []) :
      Locates config server host (.responds such) []
  /-- The addresses of the host, and nothing else, are the answer. -/
  | answers {such : Message → Prop} {addresses : List IpAddress}
      (hsuch : ∀ message, such message → ∃ records,
        message.Answers config ⟨host, .a⟩ records ∧ addressesOf records = addresses ∧
        ∀ record ∈ message.records,
          record.type = .a ∧ config.sameName record.name host = true) :
      Locates config server host (.responds such) addresses

theorem ResolutionError.isLimit_eq_false {error : ResolutionError}
    (h : error.isLookupWide = false) : error.isLimit = false := by
  refine Bool.eq_false_iff.2 fun hlimit => ?_
  rw [isLookupWide_of_isLimit hlimit] at h
  cases h

theorem Memory.IgnoresHosts.congr {config : Config} {query : Query} {hosts : List Name}
    {memory memory' : Memory} (h : memory.IgnoresHosts config query hosts)
    (hcache : memory'.cache = memory.cache) : memory'.IgnoresHosts config query hosts :=
  ⟨h.1.congr hcache, fun host hmem => (h.2 host hmem).congr hcache⟩

namespace Memory.Ignores

variable {config : Config} {memory : Memory} {query : Query} {message : Message} {host : Name}

/-- The addresses of a host with another name are learned. -/
theorem learn_addresses (h : memory.Ignores config query)
    (hother : config.sameName host query.name = false)
    (haddresses : ∀ record ∈ message.records,
      record.type = .a ∧ config.sameName record.name host = true) :
    (memory.learn message).Ignores config query := by
  refine h.learn fun record hmem hconcerns => ?_
  have hsame := Config.sameName_trans (Config.sameName_symm (haddresses record hmem).2)
    hconcerns.2
  rw [hother] at hsame
  cases hsame

end Memory.Ignores

namespace Lookup

variable {config : Config} {exchanges : List Exchange} {memory : Memory}
  {nested : Purpose → Query → Lookup Answer} {depth left : Nat}

/-- **What a visit for the addresses of a host brings** is decided by the conduct of the server.
Nothing but these addresses becomes known. -/
theorem contacts_descend_of_locates {conduct : Conduct} {server : IpAddress} {host : Name}
    {addresses : List IpAddress} {purpose : Purpose}
    (hmeets : Contact.Meets config exchanges ⟨server, ⟨host, .a⟩⟩ conduct)
    (hlocates : conduct.Locates config server host addresses)
    (hignores : memory.Ignores config ⟨host, .a⟩) :
    Contacts config exchanges (descend config nested depth ⟨host, .a⟩ left purpose server) memory
      (conduct.contacts config ⟨server, ⟨host, .a⟩⟩) fun answer memory' =>
        answer.isLimit = false ∧ answer.addresses = addresses ∧
        ∀ query : Query, config.sameName host query.name = false →
          memory.Ignores config query → memory'.Ignores config query := by
  cases hlocates with
  | fails hfails =>
    refine (contacts_descend_of_fails hignores hmeets hfails).mono ?_
    rintro _ memory' ⟨hcache, error, rfl, herror⟩
    exact ⟨ResolutionError.isLimit_eq_false herror.isLookupWide, rfl,
      fun query _ hignores' => hignores'.congr hcache⟩
  | denies hsuch =>
    refine contacts_descend_of_responds hignores hmeets fun message memory' hmessage _ hcache => ?_
    obtain ⟨hnegative, hnone⟩ := hsuch message hmessage
    rw [hnegative.verdict]
    exact Contacts.pure ⟨rfl, rfl, fun query _ hignores' =>
      hignores'.congr ((Memory.learn_of_records_eq_nil hnone).trans hcache)⟩
  | answers hsuch =>
    refine contacts_descend_of_responds hignores hmeets fun message memory' hmessage _ hcache => ?_
    obtain ⟨records, hanswers, rfl, haddresses⟩ := hsuch message hmessage
    rw [hanswers.verdict]
    exact Contacts.pure ⟨rfl, rfl, fun query hother hignores' =>
      (hignores'.congr hcache).learn_addresses hother haddresses⟩

end Lookup

/-! ## Nameservers in turn -/

/-- What is behind the names of nameservers. -/
structure Delegation where
  /-- What the root does when it is asked for the addresses of a nameserver. -/
  inquiry : Name → Conduct
  /-- The addresses that it has. -/
  addresses : Name → List IpAddress
  /-- What the servers at the addresses do when they are asked the query. -/
  conduct : IpAddress → Conduct

namespace Delegation

variable (config : Config) (exchanges : List Exchange) (query : Query) (delegation : Delegation)
  (host : Name)

/-- The exchanges show what is behind the name of a nameserver. -/
structure IsMet : Prop where
  /-- The root does this. -/
  inquiry : Contact.Meets config exchanges ⟨config.rootServer, ⟨host, .a⟩⟩ (delegation.inquiry host)
  /-- It brings the addresses. -/
  locates : (delegation.inquiry host).Locates config config.rootServer host
    (delegation.addresses host)
  /-- The servers at the addresses do this. -/
  servers : ∀ server ∈ delegation.addresses host,
    Contact.Meets config exchanges ⟨server, query⟩ (delegation.conduct server)

/-- None of the servers behind the name of a nameserver helps. -/
def IsFruitless : Prop :=
  ∀ server ∈ delegation.addresses host,
    ∃ reason, (delegation.conduct server).Fails config server reason

/-- The contacts by which the addresses of a nameserver are looked up. -/
def inquiries : List Contact :=
  (delegation.inquiry host).contacts config ⟨config.rootServer, ⟨host, .a⟩⟩

/-- The contacts by which a query is put to all servers behind the name of a nameserver. -/
def contacts : List Contact :=
  delegation.inquiries config host ++
    config.inTurn delegation.conduct query (delegation.addresses host)

end Delegation

theorem Conduct.LastFailure.append {config : Config} {conduct : IpAddress → Conduct}
    {servers more : List IpAddress} {before middle after : ResolutionError}
    (h : LastFailure config conduct servers before middle)
    (hmore : LastFailure config conduct more middle after) :
    LastFailure config conduct (servers ++ more) before after := by
  unfold LastFailure at h hmore ⊢
  rw [List.getLast?_append]
  cases hlast : more.getLast? with
  | none =>
    rw [hlast] at hmore
    subst hmore
    exact h
  | some server => rwa [hlast] at hmore

theorem Conduct.LastFailure.isLookupWide {config : Config} {conduct : IpAddress → Conduct}
    {servers : List IpAddress} {before after : ResolutionError}
    (h : LastFailure config conduct servers before after) (hbefore : before.isLookupWide = false) :
    after.isLookupWide = false := by
  unfold LastFailure at h
  split at h
  · rwa [h]
  · exact h.isLookupWide

namespace Lookup

variable {config : Config} {exchanges : List Exchange} {memory : Memory}
  {nested : Purpose → Query → Lookup Answer} {contacts located : List Contact}
  {post : Answer → Memory → Prop} {query : Query} {depth left level : Nat}
  {delegation : Delegation}

/-- The addresses of a nameserver are looked up and tried, and if none of them helps, the next
nameservers are. -/
theorem contacts_tryNameservers_cons {visit : IpAddress → Lookup Answer} {last : ResolutionError}
    {host : Name} {hosts : List Name} {servers : List IpAddress} {middle : Memory → Prop}
    (hhost : Contacts config exchanges (nested .nameserver ⟨host, .a⟩) memory located
      fun answer memory' => answer.isLimit = false ∧ answer.addresses = servers ∧ middle memory')
    (hlast : last.isLookupWide = false)
    (hservers : ∀ memory', middle memory' →
      Contacts config exchanges (do
        match ← tryEach visit last servers with
        | .ok records => return .ok records
        | .error error =>
          if error.isLookupWide then return .error error
          else tryNameservers config nested (some visit) error hosts) memory' contacts post) :
    Contacts config exchanges (tryNameservers config nested (some visit) last (host :: hosts))
      memory (located ++ contacts) post := by
  refine hhost.bind ?_
  rintro answer memory' ⟨hlimit, haddresses, hmiddle⟩
  have htry := hservers memory' hmiddle
  have hnone (h : servers = []) : Contacts config exchanges
      (tryNameservers config nested (some visit) last hosts) memory' contacts post := by
    rw [h, tryEach, pure_bind] at htry
    simpa [hlast] using htry
  cases answer with
  | error error =>
    obtain rfl : [] = servers := haddresses
    have hlimit : error.isLimit = false := hlimit
    simpa [hlimit] using hnone rfl
  | ok records =>
    obtain rfl : addressesOf records = servers := haddresses
    dsimp only
    cases hfound : addressesOf records with
    | nil => exact hnone hfound
    | cons server servers =>
      rw [hfound] at htry
      exact htry

/-- The addresses of a nameserver are looked up. -/
theorem contacts_resolve_host {host : Name} {others : List Name}
    (hmet : delegation.IsMet config exchanges query host)
    (hapart : config.TellsApart (query.name :: host :: others))
    (hignores : memory.IgnoresHosts config query (host :: others)) :
    Contacts config exchanges (resolve config (level + 1) .nameserver ⟨host, .a⟩) memory
      (delegation.inquiries config host) fun answer memory' =>
        answer.isLimit = false ∧ answer.addresses = delegation.addresses host ∧
        memory'.IgnoresHosts config query others := by
  obtain ⟨hquery, hothers⟩ := hignores
  obtain ⟨hhost, hothers⟩ := List.forall_mem_cons.1 hothers
  obtain ⟨hname, hnames⟩ := List.pairwise_cons.1 hapart
  obtain ⟨hdiffer, -⟩ := List.pairwise_cons.1 hnames
  refine (contacts_descend_of_locates hmet.inquiry hmet.locates hhost).mono ?_
  rintro answer memory' ⟨hlimit, haddresses, hkeeps⟩
  refine ⟨hlimit, haddresses, hkeeps query ?_ hquery, fun other hmem => ?_⟩
  · exact Config.sameName_comm_eq_false (hname host List.mem_cons_self)
  · exact hkeeps ⟨other, .a⟩ (hdiffer other hmem) (hothers other hmem)

/-- **Nameservers that do not help are passed over.**  By induction on these nameservers; only their
addresses become known in between. -/
theorem contacts_tryNameservers {hosts more all : List Name} {last : ResolutionError}
    (hall : all = hosts ++ more)
    (hmet : ∀ host ∈ hosts, delegation.IsMet config exchanges query host)
    (hfruitless : ∀ host ∈ hosts, delegation.IsFruitless config host)
    (hapart : config.TellsApart (query.name :: all))
    (hignores : memory.IgnoresHosts config query all) (hlast : last.isLookupWide = false)
    (hmore : ∀ last' (memory' : Memory), memory'.IgnoresHosts config query more →
      last'.isLookupWide = false →
      Conduct.LastFailure config delegation.conduct (hosts.flatMap delegation.addresses) last
        last' →
      Contacts config exchanges
        (tryNameservers config (resolve config (level + 1))
          (some (descend config (resolve config (level + 1)) depth query left .referral)) last'
          more) memory' contacts post) :
    Contacts config exchanges
      (tryNameservers config (resolve config (level + 1))
        (some (descend config (resolve config (level + 1)) depth query left .referral)) last all)
      memory (hosts.flatMap (delegation.contacts config query) ++ contacts) post := by
  subst hall
  induction hosts generalizing memory last with
  | nil => exact hmore last memory hignores hlast .nil
  | cons host hosts ih =>
    obtain ⟨hhost, hhosts⟩ := List.forall_mem_cons.1 hmet
    obtain ⟨hnone, hnones⟩ := List.forall_mem_cons.1 hfruitless
    have hapart' : config.TellsApart (query.name :: (hosts ++ more)) :=
      hapart.sublist (.cons_cons _ (.cons _ (.refl _)))
    have hassoc : (host :: hosts).flatMap (delegation.contacts config query) ++ contacts =
        delegation.inquiries config host ++
          (config.inTurn delegation.conduct query (delegation.addresses host) ++
            (hosts.flatMap (delegation.contacts config query) ++ contacts)) := by
      simp only [List.flatMap_cons, Delegation.contacts, List.append_assoc]
    rw [hassoc]
    refine contacts_tryNameservers_cons (contacts_resolve_host hhost hapart hignores) hlast ?_
    intro memory₁ hignores₁
    refine (contacts_tryEach_of_fails hhost.servers hnone hignores₁.1).bind ?_
    rintro _ memory₂ ⟨hcache, error, rfl, herror⟩
    have hbranch : error.isLookupWide = false := herror.isLookupWide hlast
    dsimp only
    rw [if_neg (by simp [hbranch])]
    refine ih hhosts hnones hbranch ?_ hapart' (hignores₁.congr hcache)
    intro last' memory' hignores' hlast' hlasts
    refine hmore last' memory' hignores' hlast' ?_
    rw [List.flatMap_cons]
    exact herror.append hlasts

/-- No nameserver helps. -/
theorem contacts_tryNameservers_of_fruitless {hosts : List Name} {last : ResolutionError}
    (hmet : ∀ host ∈ hosts, delegation.IsMet config exchanges query host)
    (hfruitless : ∀ host ∈ hosts, delegation.IsFruitless config host)
    (hapart : config.TellsApart (query.name :: hosts))
    (hignores : memory.IgnoresHosts config query hosts) (hlast : last.isLookupWide = false) :
    Contacts config exchanges
      (tryNameservers config (resolve config (level + 1))
        (some (descend config (resolve config (level + 1)) depth query left .referral)) last hosts)
      memory (hosts.flatMap (delegation.contacts config query)) fun answer _ =>
        ∃ error, answer = .error error ∧ Conduct.LastFailure config delegation.conduct
          (hosts.flatMap delegation.addresses) last error := by
  rw [← List.append_nil (hosts.flatMap (delegation.contacts config query))]
  refine contacts_tryNameservers (List.append_nil hosts).symm hmet hfruitless hapart hignores hlast
    fun last' memory' _ _ hlasts => ?_
  exact Contacts.pure ⟨last', rfl, hlasts⟩

/-- A server answers behind a nameserver, after others that do not help, and after other nameservers
that do not. -/
theorem contacts_tryNameservers_of_answers {before after all : List Name} {host : Name}
    {tried untried : List IpAddress} {server : IpAddress} {records : List Record}
    {last : ResolutionError} (hall : all = before ++ host :: after)
    (haddresses : delegation.addresses host = tried ++ server :: untried)
    (hmet : ∀ other ∈ all, delegation.IsMet config exchanges query other)
    (hfruitless : ∀ other ∈ before, delegation.IsFruitless config other)
    (hfails : ∀ other ∈ tried, ∃ reason, (delegation.conduct other).Fails config other reason)
    (hanswers : delegation.conduct server = .responds (Message.Answers config query records))
    (hapart : config.TellsApart (query.name :: all))
    (hignores : memory.IgnoresHosts config query all) (hlast : last.isLookupWide = false) :
    Contacts config exchanges
      (tryNameservers config (resolve config (level + 1))
        (some (descend config (resolve config (level + 1)) depth query left .referral)) last all)
      memory (before.flatMap (delegation.contacts config query) ++
        (delegation.inquiries config host ++
          (config.inTurn delegation.conduct query tried ++ [⟨server, query⟩])))
      fun answer _ => answer = .ok records := by
  subst hall
  obtain ⟨hbefore, hhosts⟩ := List.forall_mem_append.1 hmet
  have hhost := hhosts host List.mem_cons_self
  have hapart' : config.TellsApart (query.name :: host :: after) :=
    hapart.sublist (.cons_cons _ (List.sublist_append_right ..))
  have hservers := hhost.servers
  rw [haddresses] at hservers
  obtain ⟨htried, huntried⟩ := List.forall_mem_append.1 hservers
  have hserver := huntried server List.mem_cons_self
  rw [hanswers] at hserver
  refine contacts_tryNameservers rfl hbefore hfruitless hapart hignores hlast
    fun last' memory' hignores' hlast' _ => ?_
  refine contacts_tryNameservers_cons (contacts_resolve_host hhost hapart' hignores') hlast' ?_
  intro memory'' hignores''
  rw [haddresses, ← List.append_nil (config.inTurn .. ++ _)]
  refine (contacts_tryEach_of_answers htried hfails hserver hignores''.1).bind ?_
  rintro _ _ rfl
  exact Contacts.pure rfl

end Lookup

/-! ## Whole lookups -/

/-- **A lookup finds the first server that answers behind the names of nameservers.**  Suppose that
nothing is known, that at least one referral may be followed and one name looked up on the way, and
that the root refers the query to nameservers whose addresses do not come with it.  If a server at
one of their addresses answers the query, and the servers before it do not help, neither those at
other addresses of the nameserver nor those behind the nameservers before it, some of which may have
no addresses at all, then the lookup gives the answers.  It has contacted the root, then, for each
of the nameservers before this one, the root for its addresses and the servers there in turn, then
the root for the addresses of this one and the servers before this one in turn, then this one, and
nobody else.  If none of the servers helps then all of this is done for all nameservers, and the
lookup fails as the last of the servers does, or because there are none. -/
theorem Resolver.lookup_tries_nameservers {σ : Type} (resolver : Resolver) (query : Query)
    (network : Network σ) (state : σ) (hosts : List Name) (delegation : Delegation)
    (hempty : resolver.memory.cache = .empty resolver.config.normalizeNames)
    (hindirection : 1 ≤ resolver.config.maxIndirection)
    (hreferrals : 1 ≤ resolver.config.maxReferrals) (hsome : hosts ≠ [])
    (hapart : resolver.config.TellsApart (query.name :: hosts)) :
    let config := resolver.config
    let root : Contact := ⟨config.rootServer, query⟩
    let held := (resolver.lookup query).hold network state
    let exchanges := held.transcript.history.exchanges
    root.Meets config exchanges (.responds (Message.DelegatesTo config query hosts)) →
    (∀ host ∈ hosts, delegation.IsMet config exchanges query host) →
    (∀ before host after tried server untried records,
      hosts = before ++ host :: after → (∀ other ∈ before, delegation.IsFruitless config other) →
      delegation.addresses host = tried ++ server :: untried →
      (∀ other ∈ tried, ∃ reason, (delegation.conduct other).Fails config other reason) →
      delegation.conduct server = .responds (Message.Answers config query records) →
      held.value.1 = .ok records ∧ config.Makes exchanges
        (root :: (before.flatMap (delegation.contacts config query) ++
          (delegation.inquiries config host ++
            (config.inTurn delegation.conduct query tried ++ [⟨server, query⟩]))))) ∧
    ((∀ host ∈ hosts, delegation.IsFruitless config host) →
      (∃ error, held.value.1 = .error error ∧ Conduct.LastFailure config delegation.conduct
        (hosts.flatMap delegation.addresses) .unresolvableNameservers error) ∧
      config.Makes exchanges (root :: hosts.flatMap (delegation.contacts config query))) := by
  intro config root held exchanges hroot hmet
  obtain ⟨left, hleft⟩ : ∃ left, config.maxReferrals = left + 1 :=
    Nat.exists_eq_add_of_le' hreferrals
  obtain ⟨level, hlevel⟩ : ∃ level, config.maxIndirection = level + 1 :=
    Nat.exists_eq_add_of_le' hindirection
  have hignores (query : Query) : resolver.memory.Ignores config query :=
    Memory.ignores_of_empty hempty
  -- what is left is to say what comes of the nameservers
  have hlookup : ∀ (contacts : List Contact) (such : Answer → Prop),
      (∀ memory' : Memory, memory'.IgnoresHosts config query hosts →
        Lookup.Contacts config exchanges
          (Lookup.tryNameservers config (Lookup.resolve config (level + 1))
            (some (Lookup.descend config (Lookup.resolve config (level + 1))
              (config.maxIndirection - config.maxIndirection) query left .referral))
            .unresolvableNameservers hosts) memory' contacts fun answer _ => such answer) →
      such held.value.1 ∧ config.Makes exchanges (root :: contacts) := by
    intro contacts such htry
    refine of_contacts (Lookup.contacts_descend_of_responds (hignores query) hroot
      fun message memory' hdelegates _ hcache => ?_)
    have hignores' : memory'.IgnoresHosts config query hosts :=
      ⟨(hignores query).congr hcache, fun host _ => (hignores ⟨host, .a⟩).congr hcache⟩
    have htry' := htry _ (hdelegates.ignoresHosts hignores')
    rw [← hlevel] at htry'
    rw [hdelegates.verdict hsome]
    show Lookup.Contacts config exchanges (Lookup.act config _
      (Lookup.onward config _ _ query config.maxReferrals) query _ _) _ _ _
    rw [hleft]
    exact htry'
  constructor
  · intro before host after tried server untried records hall hfruitless haddresses hfails hanswers
    refine hlookup _ (· = .ok records) fun memory' hignores' => ?_
    exact Lookup.contacts_tryNameservers_of_answers hall haddresses hmet hfruitless hfails hanswers
      hapart hignores' rfl
  · intro hfruitless
    refine hlookup _ (fun answer => ∃ error, answer = .error error ∧ Conduct.LastFailure config
      delegation.conduct (hosts.flatMap delegation.addresses) .unresolvableNameservers error)
      fun memory' hignores' => ?_
    exact Lookup.contacts_tryNameservers_of_fruitless hmet hfruitless hapart hignores' rfl

/-- A network on which the root refers `www.example.com` to two nameservers.  There is no address of
the first one.  The second one has two, and the server at the one is silent, but the server at the
other one knows an address. -/
def strandedScript : Script where
  rules := [
    ⟨.v4 ⟨10, 0, 0, 1⟩, some ⟨"www.example.com"⟩, none, [.response false fun message =>
      (message.addAuthority
        ⟨⟨"example.com"⟩, .ns, internetClass, 60, .ns ⟨"ns1.example.org"⟩⟩).addAuthority
        ⟨⟨"example.com"⟩, .ns, internetClass, 60, .ns ⟨"ns2.example.org"⟩⟩]⟩,
    ⟨.v4 ⟨10, 0, 0, 1⟩, some ⟨"ns1.example.org"⟩, none, [.response true id]⟩,
    ⟨.v4 ⟨10, 0, 0, 1⟩, some ⟨"ns2.example.org"⟩, none, [.response true fun message =>
      (message.addAnswer
        ⟨⟨"ns2.example.org"⟩, .a, internetClass, 60, .a ⟨10, 0, 0, 2⟩⟩).addAnswer
        ⟨⟨"ns2.example.org"⟩, .a, internetClass, 60, .a ⟨10, 0, 0, 3⟩⟩]⟩,
    ⟨.v4 ⟨10, 0, 0, 2⟩, none, none, [⟨0, .silence⟩]⟩,
    ⟨.v4 ⟨10, 0, 0, 3⟩, none, none, [.response true (·.addAnswer address)]⟩]
  nextId := 7
where
  /-- The address that is known. -/
  address : Record := ⟨⟨"www.example.com"⟩, .a, internetClass, 60, .a ⟨93, 184, 216, 34⟩⟩
  /-- What is behind the names of the nameservers. -/
  delegation (config : Config) (query : Query) : Delegation :=
    { inquiry host :=
        if host = ⟨"ns1.example.org"⟩ then
          .responds fun message => message.IsNegative ∧ message.records = []
        else .responds fun message =>
          message.Answers config ⟨host, .a⟩ message.answers ∧
            addressesOf message.answers = [.v4 ⟨10, 0, 0, 2⟩, .v4 ⟨10, 0, 0, 3⟩] ∧
            ∀ record ∈ message.records, record.type = .a ∧ config.sameName record.name host = true
      addresses host :=
        if host = ⟨"ns1.example.org"⟩ then [] else [.v4 ⟨10, 0, 0, 2⟩, .v4 ⟨10, 0, 0, 3⟩]
      conduct server :=
        if server = .v4 ⟨10, 0, 0, 2⟩ then .fails .silence
        else .responds (Message.Answers config query [address]) }

/-- Five queries are sent: one to the root and one for each nameserver, and one to each server at
the addresses of the second nameserver. -/
theorem Resolver.lookup_tries_nameservers_stranded :
    let resolver := Resolver.ofConfig { rootServer := .v4 ⟨10, 0, 0, 1⟩, maxRetries := 0 }
    let query : Query := ⟨⟨"www.example.com"⟩, .a⟩
    let held := (resolver.lookup query).hold Script.network strandedScript
    held.value.1 = .ok [strandedScript.address] ∧
      resolver.config.Makes held.transcript.history.exchanges
        [⟨.v4 ⟨10, 0, 0, 1⟩, query⟩, ⟨.v4 ⟨10, 0, 0, 1⟩, ⟨⟨"ns1.example.org"⟩, .a⟩⟩,
          ⟨.v4 ⟨10, 0, 0, 1⟩, ⟨⟨"ns2.example.org"⟩, .a⟩⟩, ⟨.v4 ⟨10, 0, 0, 2⟩, query⟩,
          ⟨.v4 ⟨10, 0, 0, 3⟩, query⟩] := by
  intro resolver query held
  let exchanges : List Exchange := held.transcript.history.exchanges
  let first : Name := ⟨"ns1.example.org"⟩
  let second : Name := ⟨"ns2.example.org"⟩
  have hmeets : Contact.Meets resolver.config exchanges ⟨resolver.config.rootServer, query⟩
        (.responds (Message.DelegatesTo resolver.config query [first, second])) ∧
      Contact.Meets resolver.config exchanges ⟨resolver.config.rootServer, ⟨first, .a⟩⟩
        (.responds fun message => message.IsNegative ∧ message.records = []) ∧
      Contact.Meets resolver.config exchanges ⟨resolver.config.rootServer, ⟨second, .a⟩⟩
        (.responds fun message =>
          message.Answers resolver.config ⟨second, .a⟩ message.answers ∧
            addressesOf message.answers = [.v4 ⟨10, 0, 0, 2⟩, .v4 ⟨10, 0, 0, 3⟩] ∧
            ∀ record ∈ message.records,
              record.type = .a ∧ resolver.config.sameName record.name second = true) ∧
      Contact.Meets resolver.config exchanges ⟨.v4 ⟨10, 0, 0, 2⟩, query⟩ (.fails .silence) ∧
      Contact.Meets resolver.config exchanges ⟨.v4 ⟨10, 0, 0, 3⟩, query⟩
        (.responds (Message.Answers resolver.config query [strandedScript.address])) := by
    decide +kernel
  obtain ⟨hroot, hfirst, hsecond, hsilent, hanswers⟩ := hmeets
  let delegation := strandedScript.delegation resolver.config query
  have hmet : ∀ host ∈ [first, second],
      delegation.IsMet resolver.config exchanges query host := by
    have hnoServers : ∀ server ∈ delegation.addresses first, Contact.Meets resolver.config exchanges
        ⟨server, query⟩ (delegation.conduct server) := by
      intro server hmem
      cases hmem
    have hservers : ∀ server ∈ delegation.addresses second, Contact.Meets resolver.config exchanges
        ⟨server, query⟩ (delegation.conduct server) :=
      List.forall_mem_cons.2 ⟨hsilent, List.forall_mem_singleton.2 hanswers⟩
    exact List.forall_mem_cons.2 ⟨⟨hfirst, .denies fun _ h => h, hnoServers⟩,
      List.forall_mem_singleton.2 ⟨hsecond, .answers fun _ h => ⟨_, h⟩, hservers⟩⟩
  refine (lookup_tries_nameservers resolver query Script.network strandedScript [first, second]
    delegation rfl (by decide) (by decide) (by decide) (by decide +kernel) hroot hmet).1 [first]
    second [] [.v4 ⟨10, 0, 0, 2⟩] (.v4 ⟨10, 0, 0, 3⟩) [] [strandedScript.address] rfl ?_ rfl ?_ rfl
  · exact List.forall_mem_singleton.2 fun server hmem => absurd hmem List.not_mem_nil
  · exact List.forall_mem_singleton.2 (Conduct.exists_fails _ _ .silence)

end IterativeDns
