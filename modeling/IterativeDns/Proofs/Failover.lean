import IterativeDns.Proofs.Contacts

/-!
# From one server to the next

A referral may come with the addresses of many servers, and some of them may be out of order.  A
lookup asks them in turn, and one that does not help costs no more than the queries that are sent to
it.

* `Message.RefersTo` — a message refers a query to servers.
* `Config.inTurn` — the contacts by which a query is put to servers in turn, and
  `Conduct.LastFailure` — the failure that is left if none of them helps.
* `Lookup.contacts_tryEach` — **servers that do not help are passed over.**
* `Resolver.lookup_fails_over` — **a lookup finds the first server that answers,** and it contacts
  those that come before, and no others.
-/

namespace IterativeDns

/-! ## Referrals to servers -/

/-- The message refers a query to these servers, whose addresses come with it, and none of its
records concerns the query itself. -/
structure Message.RefersTo (config : Config) (query : Query) (servers : List IpAddress)
    (message : Message) : Prop where
  /-- It is a referral. -/
  isReferral : message.IsReferral
  /-- These are the addresses that come with it, each once. -/
  glue_eq : message.glue = servers
  /-- Nothing else is said of the query. -/
  unconcerned : ∀ record ∈ message.records, ¬ record.Concerns config query

instance (config : Config) (query : Query) (servers : List IpAddress) (message : Message) :
    Decidable (message.RefersTo config query servers) :=
  decidable_of_iff (_ ∧ _ ∧ _) ⟨fun h => ⟨h.1, h.2.1, h.2.2⟩,
    fun h => ⟨h.isReferral, h.glue_eq, h.unconcerned⟩⟩

theorem Message.RefersTo.verdict {config : Config} {query : Query} {servers : List IpAddress}
    {message : Message} (h : message.RefersTo config query servers) (hsome : servers ≠ []) :
    message.verdict config query = .servers servers := by
  obtain ⟨server, hmem⟩ := List.exists_mem_of_ne_nil servers hsome
  have hglue : server ∈ message.glue := by rwa [h.glue_eq]
  rw [h.isReferral.verdict, referralVerdict_of_mem_glue hglue, h.glue_eq]

/-! ## Servers in turn -/

/-- The contacts by which a query is put to servers in turn. -/
def Config.inTurn (config : Config) (conduct : IpAddress → Conduct) (query : Query)
    (servers : List IpAddress) : List Contact :=
  servers.flatMap fun server => (conduct server).contacts config ⟨server, query⟩

/-- The failure that is left after servers in turn did not help: that of the last of them, and the
one from before if there is none. -/
def Conduct.LastFailure (config : Config) (conduct : IpAddress → Conduct) (servers : List IpAddress)
    (before after : ResolutionError) : Prop :=
  match servers.getLast? with
  | none => after = before
  | some server => (conduct server).Fails config server after

namespace Conduct.LastFailure

variable {config : Config} {conduct : IpAddress → Conduct} {server : IpAddress}
  {servers : List IpAddress} {before middle after : ResolutionError}

theorem nil : LastFailure config conduct [] before before := rfl

theorem cons (h : (conduct server).Fails config server middle)
    (hservers : LastFailure config conduct servers middle after) :
    LastFailure config conduct (server :: servers) before after := by
  cases servers with
  | nil =>
    obtain rfl : after = middle := hservers
    exact h
  | cons next servers =>
    unfold LastFailure at hservers ⊢
    rw [List.getLast?_cons_cons]
    -- there is a last server, so that neither failure from before matters
    cases hlast : (next :: servers).getLast? with
    | none => simp at hlast
    | some last => rwa [hlast] at hservers

end Conduct.LastFailure

namespace Lookup

variable {config : Config} {exchanges : List Exchange} {memory : Memory}
  {nested : Purpose → Query → Lookup Answer} {contacts : List Contact}
  {post : Answer → Memory → Prop} {query : Query} {depth left : Nat}
  {conduct : IpAddress → Conduct}

/-- **Servers that do not help are passed over.**  By induction on these servers; nothing becomes
known in between. -/
theorem contacts_tryEach {servers more all : List IpAddress} {last : ResolutionError}
    (hall : all = servers ++ more)
    (hmeets : ∀ server ∈ servers, Contact.Meets config exchanges ⟨server, query⟩ (conduct server))
    (hfails : ∀ server ∈ servers, ∃ reason, (conduct server).Fails config server reason)
    (hignores : memory.Ignores config query)
    (hmore : ∀ last' (memory' : Memory), memory'.cache = memory.cache →
      Conduct.LastFailure config conduct servers last last' →
      Contacts config exchanges
        (tryEach (descend config nested depth query left .referral) last' more) memory' contacts
        post) :
    Contacts config exchanges
      (tryEach (descend config nested depth query left .referral) last all) memory
      (config.inTurn conduct query servers ++ contacts) post := by
  subst hall
  induction servers generalizing memory last with
  | nil => exact hmore last memory rfl .nil
  | cons server servers ih =>
    obtain ⟨hserver, hservers⟩ := List.forall_mem_cons.1 hmeets
    obtain ⟨⟨reason, hreason⟩, hreasons⟩ := List.forall_mem_cons.1 hfails
    have hassoc : config.inTurn conduct query (server :: servers) ++ contacts =
        (conduct server).contacts config ⟨server, query⟩ ++
          (config.inTurn conduct query servers ++ contacts) := by
      rw [Config.inTurn, List.flatMap_cons, List.append_assoc]
      rfl
    rw [hassoc]
    refine (contacts_descend_of_fails hignores hserver hreason).bind ?_
    rintro _ memory' ⟨hcache, error, rfl, herror⟩
    dsimp only
    rw [if_neg (by simp [herror.isLookupWide])]
    refine ih hservers hreasons (hignores.congr hcache) ?_
    intro last' memory'' hcache' hlast
    exact hmore last' memory'' (hcache'.trans hcache) (hlast.cons herror)

/-- No server helps. -/
theorem contacts_tryEach_of_fails {servers : List IpAddress} {last : ResolutionError}
    (hmeets : ∀ server ∈ servers, Contact.Meets config exchanges ⟨server, query⟩ (conduct server))
    (hfails : ∀ server ∈ servers, ∃ reason, (conduct server).Fails config server reason)
    (hignores : memory.Ignores config query) :
    Contacts config exchanges
      (tryEach (descend config nested depth query left .referral) last servers) memory
      (config.inTurn conduct query servers) fun answer memory' => memory'.cache = memory.cache ∧
        ∃ error, answer = .error error ∧ Conduct.LastFailure config conduct servers last error := by
  rw [← List.append_nil (config.inTurn ..)]
  refine contacts_tryEach (List.append_nil servers).symm hmeets hfails hignores ?_
  intro last' memory' hcache hlast
  exact Contacts.pure ⟨hcache, last', rfl, hlast⟩

/-- A server answers after others that do not help. -/
theorem contacts_tryEach_of_answers {before after : List IpAddress} {server : IpAddress}
    {records : List Record} {last : ResolutionError}
    (hmeets : ∀ server ∈ before, Contact.Meets config exchanges ⟨server, query⟩ (conduct server))
    (hfails : ∀ server ∈ before, ∃ reason, (conduct server).Fails config server reason)
    (hserver : Contact.Meets config exchanges ⟨server, query⟩
      (.responds (Message.Answers config query records)))
    (hignores : memory.Ignores config query) :
    Contacts config exchanges
      (tryEach (descend config nested depth query left .referral) last (before ++ server :: after))
      memory (config.inTurn conduct query before ++ [⟨server, query⟩])
      fun answer _ => answer = .ok records := by
  refine contacts_tryEach rfl hmeets hfails hignores fun last' memory' hcache _ => ?_
  rw [← List.append_nil [_]]
  refine (contacts_descend_of_answers (hignores.congr hcache) hserver).bind ?_
  rintro _ memory'' rfl
  exact Contacts.pure rfl

/-- A server refers to others. -/
theorem contacts_descend_of_refersTo {server : IpAddress} {servers : List IpAddress}
    {purpose : Purpose} (hsome : servers ≠ [])
    (hmeets : Contact.Meets config exchanges ⟨server, query⟩
      (.responds (Message.RefersTo config query servers)))
    (hignores : memory.Ignores config query)
    (hservers : ∀ memory' : Memory, memory'.Ignores config query →
      Contacts config exchanges
        (tryServers config (onward config nested depth query left) servers) memory' contacts
        post) :
    Contacts config exchanges (descend config nested depth query left purpose server) memory
      (⟨server, query⟩ :: contacts) post := by
  refine contacts_descend_of_responds hignores hmeets fun message memory' hrefers _ hcache => ?_
  rw [hrefers.verdict hsome]
  exact hservers _ ((hignores.congr hcache).learn hrefers.unconcerned)

end Lookup

/-! ## Whole lookups -/

/-- **A lookup finds the first server that answers.**  Suppose that nothing is known, that at least
one referral may be followed, and that the root refers the query to some servers.  If one of these
answers the query and those before it do not help, each in its own way, then the lookup gives the
answers; it has contacted the root, then the servers before this one in turn, as often as each of
them calls for, then this one, and nobody else.  If none of the servers helps, then all of them are
contacted in turn and the lookup fails as the last of them does. -/
theorem Resolver.lookup_fails_over {σ : Type} (resolver : Resolver) (query : Query)
    (network : Network σ) (state : σ) (servers : List IpAddress) (conduct : IpAddress → Conduct)
    (hempty : resolver.memory.cache = .empty resolver.config.normalizeNames)
    (hreferrals : 1 ≤ resolver.config.maxReferrals) (hsome : servers ≠ []) :
    let config := resolver.config
    let root : Contact := ⟨config.rootServer, query⟩
    let held := (resolver.lookup query).hold network state
    let exchanges := held.transcript.history.exchanges
    root.Meets config exchanges (.responds (Message.RefersTo config query servers)) →
    (∀ server ∈ servers, Contact.Meets config exchanges ⟨server, query⟩ (conduct server)) →
    (∀ before server after records, servers = before ++ server :: after →
      (∀ other ∈ before, ∃ reason, (conduct other).Fails config other reason) →
      conduct server = .responds (Message.Answers config query records) →
      held.value.1 = .ok records ∧ config.Makes exchanges
        (root :: (config.inTurn conduct query before ++ [⟨server, query⟩]))) ∧
    ((∀ server ∈ servers, ∃ reason, (conduct server).Fails config server reason) →
      (∃ error, held.value.1 = .error error ∧
        Conduct.LastFailure config conduct servers .noNameservers error) ∧
      config.Makes exchanges (root :: config.inTurn conduct query servers)) := by
  intro config root held exchanges hroot hservers
  obtain ⟨left, hleft⟩ : ∃ left, config.maxReferrals = left + 1 :=
    Nat.exists_eq_add_of_le' hreferrals
  have hignores : resolver.memory.Ignores config query := Memory.ignores_of_empty hempty
  -- what is left is to say what comes of the servers
  have hlookup : ∀ (contacts : List Contact) (such : Answer → Prop),
      (∀ memory' : Memory, memory'.Ignores config query →
        Lookup.Contacts config exchanges
          (Lookup.tryEach (Lookup.descend config (Lookup.resolve config config.maxIndirection)
            (config.maxIndirection - config.maxIndirection) query left .referral) .noNameservers
            servers) memory' contacts fun answer _ => such answer) →
      such held.value.1 ∧ config.Makes exchanges (root :: contacts) := by
    intro contacts such htry
    refine of_contacts (Lookup.contacts_descend_of_refersTo hsome hroot hignores ?_)
    rw [hleft]
    exact htry
  constructor
  · rintro before server after records rfl hfails hserver
    have hanswers := hservers server (by simp)
    rw [hserver] at hanswers
    refine hlookup _ (· = .ok records) fun memory' hignores' => ?_
    exact Lookup.contacts_tryEach_of_answers (fun other hmem => hservers other (by simp [hmem]))
      hfails hanswers hignores'
  · intro hfails
    refine hlookup _ (fun answer => ∃ error, answer = .error error ∧
      Conduct.LastFailure config conduct servers .noNameservers error) fun memory' hignores' => ?_
    exact (Lookup.contacts_tryEach_of_fails hservers hfails hignores').mono fun _ _ h => h.2

/-- A network on which the root refers `www.example.com` to four servers.  The first one is silent,
the response of the second one has another identifier, the third one refuses to answer, and the
last one knows an address. -/
def outageScript : Script where
  rules := [
    ⟨.v4 ⟨10, 0, 0, 1⟩, none, none, [.response false fun message =>
      [⟨10, 0, 0, 2⟩, ⟨10, 0, 0, 3⟩, ⟨10, 0, 0, 4⟩, ⟨10, 0, 0, 5⟩].foldl (fun message address =>
        message.addAdditional ⟨⟨"ns.example.com"⟩, .a, internetClass, 60, .a address⟩) message]⟩,
    ⟨.v4 ⟨10, 0, 0, 2⟩, none, none, [⟨0, .silence⟩]⟩,
    ⟨.v4 ⟨10, 0, 0, 3⟩, none, none,
      [⟨0, .message (.ofHeader (.empty 0 (Flags.none.setResponse true))) 1 true none⟩]⟩,
    ⟨.v4 ⟨10, 0, 0, 4⟩, none, none, [⟨0, .message (.ofHeader (.empty 0 refusal)) 0 true none⟩]⟩,
    ⟨.v4 ⟨10, 0, 0, 5⟩, none, none, [.response true (·.addAnswer address)]⟩]
  nextId := 7
where
  /-- The flags of a response that refuses to answer. -/
  refusal : Flags := (Flags.none.setResponse true).setResponseCode 5
  /-- The address that is known. -/
  address : Record := ⟨⟨"www.example.com"⟩, .a, internetClass, 60, .a ⟨93, 184, 216, 34⟩⟩
  /-- What the servers do whose addresses come with the referral. -/
  conduct (config : Config) (query : Query) (server : IpAddress) : Conduct :=
    if server = .v4 ⟨10, 0, 0, 2⟩ then .fails .silence
    else if server = .v4 ⟨10, 0, 0, 3⟩ then .fails .otherId
    else if server = .v4 ⟨10, 0, 0, 4⟩ then
      .responds fun message => message.response = .refused ∧ message.records = []
    else .responds (Message.Answers config query [address])

/-- The silent server is asked twice and the others once, until there is an answer. -/
theorem Resolver.lookup_fails_over_outage :
    let resolver := Resolver.ofConfig { rootServer := .v4 ⟨10, 0, 0, 1⟩, maxRetries := 1 }
    let query : Query := ⟨⟨"www.example.com"⟩, .a⟩
    let held := (resolver.lookup query).hold Script.network outageScript
    held.value.1 = .ok [outageScript.address] ∧
      resolver.config.Makes held.transcript.history.exchanges
        [⟨.v4 ⟨10, 0, 0, 1⟩, query⟩, ⟨.v4 ⟨10, 0, 0, 2⟩, query⟩, ⟨.v4 ⟨10, 0, 0, 2⟩, query⟩,
          ⟨.v4 ⟨10, 0, 0, 3⟩, query⟩, ⟨.v4 ⟨10, 0, 0, 4⟩, query⟩, ⟨.v4 ⟨10, 0, 0, 5⟩, query⟩] := by
  intro resolver query held
  let before : List IpAddress := [.v4 ⟨10, 0, 0, 2⟩, .v4 ⟨10, 0, 0, 3⟩, .v4 ⟨10, 0, 0, 4⟩]
  let last : IpAddress := .v4 ⟨10, 0, 0, 5⟩
  let exchanges : List Exchange := held.transcript.history.exchanges
  have hmeets : Contact.Meets resolver.config exchanges ⟨resolver.config.rootServer, query⟩
        (.responds (Message.RefersTo resolver.config query (before ++ [last]))) ∧
      Contact.Meets resolver.config exchanges ⟨.v4 ⟨10, 0, 0, 2⟩, query⟩ (.fails .silence) ∧
      Contact.Meets resolver.config exchanges ⟨.v4 ⟨10, 0, 0, 3⟩, query⟩ (.fails .otherId) ∧
      Contact.Meets resolver.config exchanges ⟨.v4 ⟨10, 0, 0, 4⟩, query⟩ (.responds fun message =>
        message.response = .refused ∧ message.records = []) ∧
      Contact.Meets resolver.config exchanges ⟨last, query⟩
        (.responds (Message.Answers resolver.config query [outageScript.address])) := by
    decide +kernel
  obtain ⟨hroot, hsilent, hother, hrefuses, hanswers⟩ := hmeets
  refine (lookup_fails_over resolver query Script.network outageScript (before ++ [last])
    (outageScript.conduct resolver.config query) rfl (by decide) (by decide) hroot ?_).1 before last
    [] [outageScript.address] rfl ?_ rfl
  · simpa [before, outageScript.conduct] using ⟨hsilent, hother, hrefuses, hanswers⟩
  · simpa [before, outageScript.conduct] using
      ⟨Conduct.exists_fails resolver.config (.v4 ⟨10, 0, 0, 2⟩) .silence,
        Conduct.exists_fails resolver.config (.v4 ⟨10, 0, 0, 3⟩) .otherId,
        ⟨_, .refuses fun _ h => h⟩⟩

end IterativeDns
