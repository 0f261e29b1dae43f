import IterativeDns.Proofs.GluelessDelegation

/-!
# How far a lookup goes

Two counters bound a lookup: one the aliases that are followed, the other the referrals.  On a
network where every server sends the lookup on by one step, and the last one answers, it gets to the
end if the limit allows that many steps, and otherwise it stops at the limit.

* `Message.Aliases` — a message says that a name is an alias, and nothing else.
* `Lookup.contacts_resolve_aliases` — **aliases are followed one after the other up to the limit.**
* `Lookup.contacts_descend_referrals` — **referrals are followed one after the other up to the
  limit.**
* `Resolver.lookup_limits_exact` — both for whole lookups.
-/

namespace IterativeDns

/-! ## Aliases -/

/-- The message says with authority that the name of a query is an alias, and nothing else. -/
def Message.Aliases (config : Config) (query : Query) (target : Name) (message : Message) : Prop :=
  message.response = .noError ∧ message.isAuthoritative = true ∧
    ∃ link ∈ message.answers, message.records = [link] ∧ link.type = .cname ∧
      link.data = .cname target ∧ config.sameName link.name query.name = true

instance (config : Config) (query : Query) (target : Name) (message : Message) :
    Decidable (message.Aliases config query target) :=
  inferInstanceAs (Decidable (_ ∧ _ ∧ _))

namespace Message.Aliases

variable {config : Config} {query : Query} {target : Name} {message : Message}

theorem verdict (h : message.Aliases config query target) (hcname : query.type ≠ .cname)
    (hany : query.type ≠ .any) : message.verdict config query = .aliased target := by
  obtain ⟨hresponse, hauthority, link, hmem, hrecords, htype, hdata, hname⟩ := h
  have hanswers : message.answers = [link] := by
    rw [Message.records, List.append_assoc] at hrecords
    obtain ⟨first, rest, hsplit⟩ := List.append_of_mem hmem
    rw [hsplit] at hrecords ⊢
    cases first <;> simp_all
  have hdirect : message.direct config query = [] := by
    simp [direct, hanswers, htype, hcname.symm]
  have halias : message.alias? config query = some target := by
    simp [alias?, hanswers, hname, hdata, RecordData.aliasTarget?]
  simp [Message.verdict, hresponse, hauthority, answerVerdict, hanswers, hany, hdirect, halias]

/-- Nothing is said of other names. -/
theorem unconcerned (h : message.Aliases config query target) {other : Query}
    (hother : config.sameName query.name other.name = false) :
    ∀ record ∈ message.records, ¬ record.Concerns config other := by
  obtain ⟨-, -, link, -, hrecords, -, -, hname⟩ := h
  rw [hrecords]
  refine List.forall_mem_singleton.2 fun hconcerns => ?_
  have hsame := Config.sameName_trans (Config.sameName_symm hname) hconcerns.2
  rw [hother] at hsame
  cases hsame

end Message.Aliases

/-- Whether records were reported under another name before does not matter. -/
theorem Answer.throughAlias_ok_ite (query query' : Query) (target : Name) (records : List Record)
    (p : Prop) [Decidable p] :
    Answer.throughAlias query target
      (.ok (if p then records else records.map (·.rekeyed query'))) =
      .ok (records.map (·.rekeyed query)) := by
  rw [throughAlias]
  split <;> simp

namespace Lookup

variable {config : Config} {exchanges : List Exchange} {memory : Memory}
  {nested : Purpose → Query → Lookup Answer} {records : List Record} {purpose : Purpose}

/-- **Aliases are followed one after the other up to the limit.**  By induction on the aliases; each
of them takes one of the levels that are left. -/
theorem contacts_resolve_aliases {type : RecordType} {level : Nat} {name : Name}
    {aliases : List Name} (hcname : type ≠ .cname) (hany : type ≠ .any)
    (hlinks : (name :: aliases).IsChain fun owner target =>
      Contact.Meets config exchanges ⟨config.rootServer, ⟨owner, type⟩⟩
        (.responds (Message.Aliases config ⟨owner, type⟩ target)))
    (hlast : Contact.Meets config exchanges ⟨config.rootServer, ⟨aliases.getLastD name, type⟩⟩
      (.responds (Message.Answers config ⟨aliases.getLastD name, type⟩ records)))
    (hapart : config.TellsApart (name :: aliases))
    (hignores : ∀ other ∈ name :: aliases, memory.Ignores config ⟨other, type⟩) :
    Contacts config exchanges (resolve config level purpose ⟨name, type⟩) memory
      (((name :: aliases).take level).map fun name => ⟨config.rootServer, ⟨name, type⟩⟩)
      fun answer _ => answer =
        if aliases.length < level then
          .ok (if aliases = [] then records else records.map (·.rekeyed ⟨name, type⟩))
        else .error (.indirectionLimit config.maxIndirection) := by
  induction aliases generalizing name level purpose memory with
  | nil =>
    cases level with
    | zero => exact Contacts.visiting (Contacts.pure rfl) _
    | succ level =>
      obtain ⟨hname, -⟩ := List.forall_mem_cons.1 hignores
      rw [List.take_of_length_le (by simp)]
      refine (contacts_descend_of_answers hname hlast).mono ?_
      rintro _ _ rfl
      simp
  | cons target aliases ih =>
    obtain ⟨hname, hnames⟩ := List.forall_mem_cons.1 hignores
    obtain ⟨hdiffer, hapart'⟩ := List.pairwise_cons.1 hapart
    obtain ⟨hlink, hlinks'⟩ := List.isChain_cons_cons.1 hlinks
    rw [List.getLastD_cons] at hlast
    cases level with
    | zero => exact Contacts.visiting (Contacts.pure rfl) _
    | succ level =>
      refine contacts_descend_of_responds hname hlink fun message memory' haliases _ hcache => ?_
      rw [haliases.verdict hcname hany]
      refine contacts_chase ((ih hlinks' hlast hapart' fun other hmem => ?_).mono ?_)
      · refine ((hnames other hmem).congr hcache).learn (haliases.unconcerned ?_)
        exact hdiffer other hmem
      · rintro _ _ rfl
        simp only [List.length_cons, Nat.add_lt_add_iff_right]
        split
        · rw [Answer.throughAlias_ok_ite, if_neg (List.cons_ne_nil _ _)]
        · rfl

variable {query : Query}

/-- **Referrals are followed one after the other up to the limit.**  By induction on the servers
that are referred to. -/
theorem contacts_descend_referrals {depth left : Nat} {server : IpAddress}
    {servers : List IpAddress}
    (hlinks : (server :: servers).IsChain fun server next =>
      Contact.Meets config exchanges ⟨server, query⟩
        (.responds (Message.RefersTo config query [next])))
    (hlast : Contact.Meets config exchanges ⟨servers.getLastD server, query⟩
      (.responds (Message.Answers config query records)))
    (hignores : memory.Ignores config query) :
    Contacts config exchanges (descend config nested depth query left purpose server) memory
      (((server :: servers).take (left + 1)).map fun server => ⟨server, query⟩)
      fun answer _ => answer =
        if servers.length ≤ left then .ok records
        else .error (.referralLimit config.maxReferrals) := by
  induction servers generalizing server left purpose memory with
  | nil =>
    rw [List.take_of_length_le (by simp)]
    exact contacts_descend_of_answers hignores hlast
  | cons next servers ih =>
    obtain ⟨hlink, hlinks'⟩ := List.isChain_cons_cons.1 hlinks
    rw [List.getLastD_cons] at hlast
    refine contacts_descend_of_refersTo (List.cons_ne_nil _ _) hlink hignores
      fun memory' hignores' => ?_
    cases left with
    | zero => exact Contacts.pure rfl
    | succ left =>
      show Contacts config exchanges
        (tryEach (descend config nested depth query left .referral) .noNameservers [next]) memory' _
        _
      rw [← List.append_nil (((next :: servers).take (left + 1)).map _)]
      refine (ih hlinks' hlast hignores').bind ?_
      intro answer memory'' hanswer
      by_cases hlength : servers.length ≤ left
      · rw [if_pos hlength] at hanswer
        subst hanswer
        exact Contacts.pure (by simp [hlength])
      · rw [if_neg hlength] at hanswer
        subst hanswer
        exact Contacts.pure (by simp [hlength])

end Lookup

/-! ## Whole lookups -/

/-- **A lookup goes exactly as far as its limits allow.**  Suppose that nothing is known.

If the root says of each of some names, with authority and nothing else, that it is an alias for the
next one, and it answers for the last one, then a lookup for the first one asks for them in turn.
If there are no more aliases than may be followed then it gives what is found for the last name,
under the first one, and otherwise it asks for as many aliases as may be followed and fails.

If each of some servers refers the query to the next one, the root being the first of them, and the
last one answers, then the lookup asks them in turn.  If there are no more referrals than may be
followed then it gives what is found, and otherwise it follows as many as it may and fails. -/
theorem Resolver.lookup_limits_exact {σ : Type} (resolver : Resolver) (query : Query)
    (network : Network σ) (state : σ) (records : List Record)
    (hempty : resolver.memory.cache = .empty resolver.config.normalizeNames) :
    let config := resolver.config
    let held := (resolver.lookup query).hold network state
    let exchanges := held.transcript.history.exchanges
    (∀ aliases : List Name, query.type ≠ .cname → query.type ≠ .any →
      config.TellsApart (query.name :: aliases) →
      ((query.name :: aliases).IsChain fun owner target =>
        Contact.Meets config exchanges ⟨config.rootServer, ⟨owner, query.type⟩⟩
          (.responds (Message.Aliases config ⟨owner, query.type⟩ target))) →
      Contact.Meets config exchanges
        ⟨config.rootServer, ⟨aliases.getLastD query.name, query.type⟩⟩
        (.responds (Message.Answers config ⟨aliases.getLastD query.name, query.type⟩ records)) →
      (aliases.length ≤ config.maxIndirection →
        held.value.1 =
          .ok (if aliases = [] then records else records.map (·.rekeyed query)) ∧
        ((∀ record ∈ records, record.name = aliases.getLastD query.name) →
          held.value.1 = .ok (records.map (·.rekeyed query))) ∧
        config.Makes exchanges
          ((query.name :: aliases).map fun name => ⟨config.rootServer, ⟨name, query.type⟩⟩)) ∧
      (config.maxIndirection < aliases.length →
        held.value.1 = .error (.indirectionLimit config.maxIndirection) ∧
        config.Makes exchanges (((query.name :: aliases).take (config.maxIndirection + 1)).map
          fun name => ⟨config.rootServer, ⟨name, query.type⟩⟩))) ∧
    (∀ servers : List IpAddress,
      ((config.rootServer :: servers).IsChain fun server next =>
        Contact.Meets config exchanges ⟨server, query⟩
          (.responds (Message.RefersTo config query [next]))) →
      Contact.Meets config exchanges ⟨servers.getLastD config.rootServer, query⟩
        (.responds (Message.Answers config query records)) →
      (servers.length ≤ config.maxReferrals →
        held.value.1 = .ok records ∧
        config.Makes exchanges ((config.rootServer :: servers).map fun server => ⟨server, query⟩)) ∧
      (config.maxReferrals < servers.length →
        held.value.1 = .error (.referralLimit config.maxReferrals) ∧
        config.Makes exchanges (((config.rootServer :: servers).take
          (config.maxReferrals + 1)).map fun server => ⟨server, query⟩))) := by
  intro config held exchanges
  have hignores (query : Query) : resolver.memory.Ignores config query :=
    Memory.ignores_of_empty hempty
  constructor
  · intro aliases hcname hany hapart hlinks hlast
    obtain ⟨hanswer, hmakes⟩ := of_contacts (Lookup.contacts_resolve_aliases hcname hany hlinks
      hlast hapart fun name _ => hignores ⟨name, query.type⟩)
    constructor
    · intro hlength
      rw [if_pos (Nat.lt_succ_of_le hlength)] at hanswer
      rw [List.take_of_length_le (by simpa using hlength)] at hmakes
      refine ⟨hanswer, fun hnames => ?_, hmakes⟩
      rw [hanswer]
      split
      · rename_i hnone
        subst hnone
        obtain ⟨exchange, message, -, hanswers⟩ := hlast.exists_shownBy hmakes List.mem_cons_self
        have hself : records.map (·.rekeyed query) = records := by
          refine (List.map_congr_left fun record hmem => ?_).trans (List.map_id records)
          exact Record.rekeyed_eq_self (hnames record hmem) (hanswers.type_of_mem hany hmem)
        rw [hself]
      · rfl
    · intro hlength
      rw [if_neg (Nat.not_lt.2 hlength)] at hanswer
      exact ⟨hanswer, hmakes⟩
  · intro servers hlinks hlast
    obtain ⟨hanswer, hmakes⟩ := of_contacts (Lookup.contacts_descend_referrals hlinks hlast
      (hignores query))
    constructor
    · intro hlength
      rw [if_pos hlength] at hanswer
      rw [List.take_of_length_le (by simpa using hlength)] at hmakes
      exact ⟨hanswer, hmakes⟩
    · intro hlength
      rw [if_neg (Nat.not_le.2 hlength)] at hanswer
      exact ⟨hanswer, hmakes⟩

/-- A network on which `www.example.com` is an alias for `web.example.com` and this one for
`site.example.com`, which has an address, and on which the root refers `mail.example.com` to a
server that knows its address. -/
def stepwiseScript : Script where
  rules := [
    ⟨.v4 ⟨10, 0, 0, 1⟩, some www, none, [.response true (·.addAnswer (link www web))]⟩,
    ⟨.v4 ⟨10, 0, 0, 1⟩, some web, none, [.response true (·.addAnswer (link web site))]⟩,
    ⟨.v4 ⟨10, 0, 0, 1⟩, some site, none, [.response true (·.addAnswer (address site))]⟩,
    ⟨.v4 ⟨10, 0, 0, 1⟩, some mail, none, [.response false (·.addAdditional
      ⟨⟨"ns.example.com"⟩, .a, internetClass, 60, .a ⟨10, 0, 0, 2⟩⟩)]⟩,
    ⟨.v4 ⟨10, 0, 0, 2⟩, none, none, [.response true (·.addAnswer (address mail))]⟩]
  nextId := 7
where
  /-- The first alias. -/
  www : Name := ⟨"www.example.com"⟩
  /-- The second alias. -/
  web : Name := ⟨"web.example.com"⟩
  /-- The name that both stand for. -/
  site : Name := ⟨"site.example.com"⟩
  /-- The name that another server knows about. -/
  mail : Name := ⟨"mail.example.com"⟩
  /-- One name is an alias for another. -/
  link (owner target : Name) : Record := ⟨owner, .cname, internetClass, 60, .cname target⟩
  /-- A name has an address. -/
  address (owner : Name) : Record := ⟨owner, .a, internetClass, 60, .a ⟨93, 184, 216, 34⟩⟩

/-- If one alias and one referral may be followed, then two aliases are too many, and one referral
is not. -/
theorem Resolver.lookup_limits_exact_stepwise :
    let root : IpAddress := .v4 ⟨10, 0, 0, 1⟩
    let resolver := Resolver.ofConfig { rootServer := root, maxIndirection := 1, maxReferrals := 1 }
    let query : Query := ⟨stepwiseScript.www, .a⟩
    let query' : Query := ⟨stepwiseScript.mail, .a⟩
    let held := (resolver.lookup query).hold Script.network stepwiseScript
    let held' := (resolver.lookup query').hold Script.network stepwiseScript
    (held.value.1 = .error (.indirectionLimit 1) ∧
      resolver.config.Makes held.transcript.history.exchanges
        [⟨root, query⟩, ⟨root, ⟨stepwiseScript.web, .a⟩⟩]) ∧
    (held'.value.1 = .ok [stepwiseScript.address stepwiseScript.mail] ∧
      resolver.config.Makes held'.transcript.history.exchanges
        [⟨root, query'⟩, ⟨.v4 ⟨10, 0, 0, 2⟩, query'⟩]) := by
  intro root resolver query query' held held'
  let site := stepwiseScript.site
  let web := stepwiseScript.web
  let records : List Record := [stepwiseScript.address site]
  let records' : List Record := [stepwiseScript.address stepwiseScript.mail]
  let exchanges : List Exchange := held.transcript.history.exchanges
  let exchanges' : List Exchange := held'.transcript.history.exchanges
  have haliases : (Contact.Meets resolver.config exchanges ⟨root, query⟩
          (.responds (Message.Aliases resolver.config query web)) ∧
        Contact.Meets resolver.config exchanges ⟨root, ⟨web, .a⟩⟩
          (.responds (Message.Aliases resolver.config ⟨web, .a⟩ site))) ∧
      Contact.Meets resolver.config exchanges ⟨root, ⟨site, .a⟩⟩
        (.responds (Message.Answers resolver.config ⟨site, .a⟩ records)) := by
    decide +kernel
  have hreferral : Contact.Meets resolver.config exchanges' ⟨root, query'⟩
        (.responds (Message.RefersTo resolver.config query' [.v4 ⟨10, 0, 0, 2⟩])) ∧
      Contact.Meets resolver.config exchanges' ⟨.v4 ⟨10, 0, 0, 2⟩, query'⟩
        (.responds (Message.Answers resolver.config query' records')) := by
    decide +kernel
  obtain ⟨⟨hwww, hweb⟩, hsite⟩ := haliases
  obtain ⟨hroot, hserver⟩ := hreferral
  constructor
  · exact ((lookup_limits_exact resolver query Script.network stepwiseScript records rfl).1
      [web, site] (by decide) (by decide) (by decide +kernel)
      (.cons_cons hwww (.cons_cons hweb (.singleton _))) hsite).2 (by decide)
  · exact ((lookup_limits_exact resolver query' Script.network stepwiseScript records' rfl).2
      [.v4 ⟨10, 0, 0, 2⟩] (.cons_cons hroot (.singleton _)) hserver).1 (by decide)

end IterativeDns
