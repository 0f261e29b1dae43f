import IterativeDns.Proofs.Ceilings
import IterativeDns.Proofs.OwnQuestion

/-!
# Answers that leave nothing to ask

A response that says that a name is an alias may already say what the alias stands for, behind how
many aliases so ever.  Its records are stored before it is read, so that the lookup finds them there
and does not ask again.

* `Cache.entries_insertAll` — storing records in an empty cache stores each of them once, and
  `Memory.known_learn` — what is known then.
* `Message.Completes` — a message holds all aliases from the name of a query to the last one, and
  the records of this one.
* `Lookup.contacts_resolve_of_knownAliases` — aliases that are known are followed without asking.
* `Resolver.lookup_of_completes` — **such a response needs no other query.**
-/

namespace IterativeDns

/-! ## What is known from one message -/

namespace Cache

variable {now : Instant}

/-- Storing a record at the moment at which the others were stored. -/
theorem store_map (record : Record) (stored : List Record) :
    store ⟨record, now⟩ (stored.map (⟨·, now⟩)) =
      (if record ∈ stored then stored else stored ++ [record]).map (⟨·, now⟩) := by
  induction stored with
  | nil => rfl
  | cons first stored ih =>
    rw [List.map_cons, store]
    by_cases hsame : first = record
    · simp [hsame]
    · rw [if_neg hsame, ih]
      by_cases hmem : record ∈ stored
      · simp [hmem]
      · simp [hmem, Ne.symm hsame]

/-- Storing records at the moment at which the others were stored.  By induction on the records. -/
theorem entries_insertAll_map (normalizeNames : Bool) (stored records : List Record) :
    ((⟨normalizeNames, stored.map (⟨·, now⟩)⟩ : Cache).insertAll records now).entries =
      (stored ++ (records.filter (· ∉ stored)).eraseDups).map (⟨·, now⟩) := by
  induction records generalizing stored with
  | nil => simp [insertAll]
  | cons record records ih =>
    have hinsert : (⟨normalizeNames, stored.map (⟨·, now⟩)⟩ : Cache).insert record now =
        ⟨normalizeNames,
          (if record ∈ stored then stored else stored ++ [record]).map (⟨·, now⟩)⟩ := by
      rw [insert, store_map]
    show (((⟨normalizeNames, stored.map (⟨·, now⟩)⟩ : Cache).insert record now).insertAll records
      now).entries = _
    rw [hinsert]
    by_cases hmem : record ∈ stored
    · rw [if_pos hmem, ih, List.filter_cons_of_neg (by simpa using hmem)]
    · have hrest : records.filter (· ∉ stored ++ [record]) =
          (records.filter (· ∉ stored)).filter fun other => !other == record := by
        rw [List.filter_filter]
        refine List.filter_congr fun other _ => ?_
        by_cases hsame : other = record <;> simp [hsame]
      rw [if_neg hmem, ih, List.filter_cons_of_pos (by simpa using hmem), List.eraseDups_cons,
        List.append_assoc, List.singleton_append, hrest]

/-- **Storing records in an empty cache stores each of them once.** -/
theorem entries_insertAll (normalizeNames : Bool) (records : List Record) :
    ((empty normalizeNames).insertAll records now).entries =
      records.eraseDups.map (⟨·, now⟩) := by
  refine (entries_insertAll_map normalizeNames [] records).trans ?_
  simp

end Cache

/-- The distinct records of a query in a message, from all of its sections. -/
def Message.heldFor (config : Config) (query : Query) (message : Message) : List Record :=
  message.records.eraseDups.filter fun record =>
    record.type == query.type && config.sameName record.name query.name

namespace Memory

variable {config : Config} {memory : Memory} {message : Message}

/-- If nothing was known before, the records of the last message are known, unless they expire at
once. -/
theorem known_learn (hempty : memory.cache = .empty config.normalizeNames)
    (hlive : ∀ record ∈ message.records, 0 < record.ttl) (query : Query) :
    (memory.learn message).known query = message.heldFor config query := by
  have hentries : (memory.learn message).cache.entries =
      message.records.eraseDups.map (⟨·, memory.now⟩) := by
    rw [learn, hempty]
    exact Cache.entries_insertAll ..
  rw [known, Cache.lookup, Cache.found, hentries, List.filter_map, List.map_map]
  refine (List.map_id _).trans (List.filter_congr fun record hmem => ?_)
  have hfresh : record.isExpired memory.now memory.now = false :=
    Record.isExpired_self (hlive record (List.mem_eraseDups.1 hmem)) _
  have hkey : (memory.learn message).cache.key record.query =
      (memory.learn message).cache.key query ↔
        config.sameName record.name query.name = true ∧ record.type = query.type :=
    Cache.key_eq_key_iff (normalizeNames_learn hempty message)
  refine Bool.eq_iff_iff.2 ?_
  simp only [Function.comp_apply, Cache.keyOf, CacheEntry.isLive, Bool.and_eq_true, beq_iff_eq,
    hkey]
  simp [learn, hfresh, and_comm]

end Memory

/-! ## Complete answers -/

/-- All that records say of a name, as far as a type is concerned, is that it is an alias for
another. -/
structure Record.Link (config : Config) (type : RecordType) (records : List Record)
    (owner target : Name) : Prop where
  /-- They say so. -/
  linked : ∃ link ∈ records, link.type = .cname ∧ config.sameName link.name owner = true
  /-- It is an alias for nothing else. -/
  unique : ∀ link ∈ records, link.type = .cname → config.sameName link.name owner = true →
    link.data = .cname target
  /-- It has no records of the type. -/
  isAlias : ∀ record ∈ records, record.type = type → config.sameName record.name owner = false

instance (config : Config) (type : RecordType) (records : List Record) (owner target : Name) :
    Decidable (Record.Link config type records owner target) :=
  decidable_of_iff (_ ∧ _ ∧ _) ⟨fun h => ⟨h.1, h.2.1, h.2.2⟩,
    fun h => ⟨h.linked, h.unique, h.isAlias⟩⟩

/-- The message holds all aliases from the name of a query to the last one, and these records of the
last one. -/
structure Message.Completes (config : Config) (query : Query) (aliases : List Name)
    (records : List Record) (message : Message) : Prop where
  /-- All went well. -/
  response : message.response = .noError
  /-- The first alias is an answer. -/
  answered : ∃ link ∈ message.answers, link.type = .cname ∧
    config.sameName link.name query.name = true
  /-- Each name is an alias for the next one, and the records say nothing else of it. -/
  linked : (query.name :: aliases).IsChain (Record.Link config query.type message.records)
  /-- These are the records of the last name. -/
  heldFor_eq : message.heldFor config ⟨aliases.getLastD query.name, query.type⟩ = records
  /-- There are some. -/
  ne_nil : records ≠ []
  /-- None of the records expires at once. -/
  live : ∀ record ∈ message.records, 0 < record.ttl

instance (config : Config) (query : Query) (aliases : List Name) (records : List Record)
    (message : Message) : Decidable (message.Completes config query aliases records) :=
  decidable_of_iff (_ ∧ _ ∧ _ ∧ _ ∧ _ ∧ _)
    ⟨fun h => ⟨h.1, h.2.1, h.2.2.1, h.2.2.2.1, h.2.2.2.2.1, h.2.2.2.2.2⟩,
      fun h => ⟨h.response, h.answered, h.linked, h.heldFor_eq, h.ne_nil, h.live⟩⟩

/-- Among records that agree on what a name is an alias for, that is found. -/
theorem Record.findSome?_aliasTarget?_eq {links : List Record} {target : Name}
    (hsome : ∃ link ∈ links, link.data = .cname target)
    (hunique : ∀ link ∈ links, ∀ target', link.data = .cname target' → target' = target) :
    links.findSome? (·.data.aliasTarget?) = some target := by
  cases hfound : links.findSome? (·.data.aliasTarget?) with
  | none =>
    obtain ⟨link, hmem, hdata⟩ := hsome
    have hnone := List.findSome?_eq_none_iff.1 hfound link hmem
    rw [hdata] at hnone
    cases hnone
  | some target' =>
    obtain ⟨link, hmem, htarget⟩ := List.exists_of_findSome?_eq_some hfound
    rw [hunique link hmem target' (RecordData.eq_cname htarget)]

namespace Message.Completes

variable {config : Config} {query : Query} {aliases : List Name} {records : List Record}
  {message : Message}

/-- The name of the query is an alias for the first one. -/
theorem verdict {target : Name} (h : message.Completes config query (target :: aliases) records)
    (hfits : ∀ record ∈ message.records, record.DataFits) (hany : query.type ≠ .any) :
    message.verdict config query = .aliased target := by
  obtain ⟨hlink, -⟩ := List.isChain_cons_cons.1 h.linked
  obtain ⟨link, hmem, htype, hname⟩ := h.answered
  have hanswers : message.answers ≠ [] := List.ne_nil_of_mem hmem
  have hdirect : message.direct config query = [] := by
    refine List.filter_eq_nil_iff.2 fun record hrecord hmatches => ?_
    rw [Bool.and_eq_true, beq_iff_eq] at hmatches
    have hother := hlink.isAlias record (mem_records_of_mem_answers hrecord) hmatches.1
    rw [hmatches.2] at hother
    cases hother
  have halias : message.alias? config query = some target := by
    refine Record.findSome?_aliasTarget?_eq ⟨link, List.mem_filter.2 ⟨hmem, hname⟩, ?_⟩ ?_
    · exact hlink.unique link (mem_records_of_mem_answers hmem) htype hname
    · intro other hother target' hdata
      obtain ⟨hmem', hname'⟩ := List.mem_filter.1 hother
      have hrecord := mem_records_of_mem_answers hmem'
      have hcname := Record.type_eq_cname (hfits other hrecord) hdata
      have htarget := hlink.unique other hrecord hcname hname'
      exact RecordData.cname.inj (hdata.symm.trans htarget)
  simp [Message.verdict, h.response, answerVerdict, hanswers, hany, hdirect, halias]

/-- Once the message is known, so is what each of its aliases stands for. -/
theorem knownAlias?_learn (h : message.Completes config query aliases records) {memory : Memory}
    (hempty : memory.cache = .empty config.normalizeNames) (hcname : query.type ≠ .cname)
    (hany : query.type ≠ .any) {owner target : Name}
    (hlink : Record.Link config query.type message.records owner target) :
    (memory.learn message).known ⟨owner, query.type⟩ = [] ∧
      (memory.learn message).knownAlias? ⟨owner, query.type⟩ = some target := by
  rw [Memory.knownAlias?, Memory.known_learn hempty h.live, Memory.known_learn hempty h.live,
    if_neg (by simp [hcname, hany])]
  constructor
  · refine List.filter_eq_nil_iff.2 fun record hrecord hmatches => ?_
    rw [Bool.and_eq_true, beq_iff_eq] at hmatches
    have hother := hlink.isAlias record (List.mem_eraseDups.1 hrecord) hmatches.1
    rw [hmatches.2] at hother
    cases hother
  · obtain ⟨link, hmem, htype, hname⟩ := hlink.linked
    refine Record.findSome?_aliasTarget?_eq ⟨link, ?_, hlink.unique link hmem htype hname⟩ ?_
    · exact List.mem_filter.2 ⟨List.mem_eraseDups.2 hmem, by simp [htype, hname]⟩
    · intro other hother target' hdata
      obtain ⟨hmem', hmatches⟩ := List.mem_filter.1 hother
      rw [Bool.and_eq_true, beq_iff_eq] at hmatches
      have htarget := hlink.unique other (List.mem_eraseDups.1 hmem') hmatches.1 hmatches.2
      exact RecordData.cname.inj (hdata.symm.trans htarget)

end Message.Completes

namespace Lookup

variable {config : Config} {exchanges : List Exchange} {memory : Memory}

/-- **Aliases that are known are followed without asking.**  By induction on the aliases. -/
theorem contacts_resolve_of_knownAliases {type : RecordType} {level : Nat} {purpose : Purpose}
    {name : Name} {aliases : List Name} {records : List Record} (hlevel : aliases.length < level)
    (hlinked : (name :: aliases).IsChain fun owner target =>
      memory.known ⟨owner, type⟩ = [] ∧ memory.knownAlias? ⟨owner, type⟩ = some target)
    (hlast : memory.known ⟨aliases.getLastD name, type⟩ = records) (hsome : records ≠ []) :
    Contacts config exchanges (resolve config level purpose ⟨name, type⟩) memory []
      fun answer _ => answer =
        .ok (if aliases = [] then records else records.map (·.rekeyed ⟨name, type⟩)) := by
  induction aliases generalizing name level purpose with
  | nil =>
    obtain ⟨level, rfl⟩ := Nat.exists_eq_add_one.2 (Nat.zero_lt_of_lt hlevel)
    obtain ⟨visit, hdescend⟩ := exists_descend_eq config (resolve config level)
      (config.maxIndirection - level) ⟨name, type⟩ config.maxReferrals purpose config.rootServer
    rw [resolve, hdescend]
    refine Contacts.visiting (Contacts.get_bind ?_) visit
    rw [List.getLastD_nil] at hlast
    rw [hlast]
    cases records with
    | nil => exact absurd rfl hsome
    | cons record records => exact Contacts.pure rfl
  | cons target aliases ih =>
    obtain ⟨level, rfl⟩ := Nat.exists_eq_add_one.2 (Nat.zero_lt_of_lt hlevel)
    obtain ⟨⟨hnone, halias⟩, hlinked'⟩ := List.isChain_cons_cons.1 hlinked
    rw [List.getLastD_cons] at hlast
    obtain ⟨visit, hdescend⟩ := exists_descend_eq config (resolve config level)
      (config.maxIndirection - level) ⟨name, type⟩ config.maxReferrals purpose config.rootServer
    rw [resolve, hdescend]
    refine Contacts.visiting (Contacts.get_bind ?_) visit
    rw [hnone]
    refine Contacts.get_bind ?_
    rw [halias]
    refine contacts_chase ((ih (Nat.lt_of_succ_lt_succ hlevel) hlinked' hlast).mono ?_)
    rintro _ _ rfl
    rw [Answer.throughAlias_ok_ite, if_neg (List.cons_ne_nil _ _)]

end Lookup

/-! ## Whole lookups -/

/-- **A response that holds a complete chain of aliases needs no other query.**  Suppose that
nothing is known, that the answers of the root to a query say that its name is an alias for another
one, and that the response says what this one is an alias for, and so on, in whatever order and in
whichever sections, and has records of the last name.  If there are no more aliases than may be
followed, then these records, each once, are the answer to the query, under its name, and no other
query is sent.  They come in the order in which the message has them first, which is one of the
orders that a cache may find them in. -/
theorem Resolver.lookup_of_completes {σ : Type} (resolver : Resolver) (query : Query)
    (network : Network σ) (state : σ) (aliases : List Name) (records : List Record)
    (hempty : resolver.memory.cache = .empty resolver.config.normalizeNames)
    (hcname : query.type ≠ .cname) (hany : query.type ≠ .any) (hsome : aliases ≠ [])
    (hindirection : aliases.length ≤ resolver.config.maxIndirection) :
    let config := resolver.config
    let root : Contact := ⟨config.rootServer, query⟩
    let held := (resolver.lookup query).hold network state
    let exchanges := held.transcript.history.exchanges
    root.Meets config exchanges (.responds (Message.Completes config query aliases records)) →
      held.value.1 = .ok (records.map (·.rekeyed query)) ∧ config.Makes exchanges [root] := by
  intro config root held exchanges hroot
  obtain ⟨target, aliases, rfl⟩ := List.exists_cons_of_ne_nil hsome
  have hignores : resolver.memory.Ignores config query := Memory.ignores_of_empty hempty
  have hlookup : Lookup.Contacts config exchanges
      (Lookup.resolve config (config.maxIndirection + 1) .lookup query) resolver.memory [root]
      fun answer _ => answer = .ok (records.map (·.rekeyed query)) := by
    refine Lookup.contacts_descend_of_responds hignores hroot
      fun message memory' hcompletes hfits hcache => ?_
    have hempty' : memory'.cache = .empty config.normalizeNames := hcache.trans hempty
    obtain ⟨-, hlinked⟩ := List.isChain_cons_cons.1 hcompletes.linked
    have hlast := hcompletes.heldFor_eq
    rw [List.getLastD_cons, ← Memory.known_learn hempty' hcompletes.live] at hlast
    rw [hcompletes.verdict hfits hany]
    refine Lookup.contacts_chase ((Lookup.contacts_resolve_of_knownAliases hindirection
      (hlinked.imp fun owner target => hcompletes.knownAlias?_learn hempty' hcname hany) hlast
      hcompletes.ne_nil).mono ?_)
    rintro _ _ rfl
    exact Answer.throughAlias_ok_ite ..
  exact of_contacts hlookup

/-- A network on which the root knows that `www.example.com` is an alias for `web.example.com` and
this one for `site.example.com`, and the address of this one, and says so at once. -/
def completeScript : Script where
  rules := [⟨.v4 ⟨10, 0, 0, 1⟩, some www, none, [.response true fun message =>
    (((message.addAdditional address).addAuthority
      ⟨web, .cname, internetClass, 60, .cname site⟩).addAnswer
      ⟨www, .cname, internetClass, 60, .cname web⟩).addAdditional address]⟩]
  nextId := 7
where
  /-- The name that is looked up. -/
  www : Name := ⟨"www.example.com"⟩
  /-- The name that it is an alias for. -/
  web : Name := ⟨"web.example.com"⟩
  /-- The last name. -/
  site : Name := ⟨"site.example.com"⟩
  /-- Its address. -/
  address : Record := ⟨site, .a, internetClass, 60, .a ⟨93, 184, 216, 34⟩⟩

/-- The address is reported once, although the message has it twice. -/
theorem Resolver.lookup_of_completes_site :
    let resolver := Resolver.ofConfig { rootServer := .v4 ⟨10, 0, 0, 1⟩, maxIndirection := 2 }
    let query : Query := ⟨completeScript.www, .a⟩
    let held := (resolver.lookup query).hold Script.network completeScript
    held.value.1 = .ok [completeScript.address.rekeyed query] ∧
      resolver.config.Makes held.transcript.history.exchanges [⟨.v4 ⟨10, 0, 0, 1⟩, query⟩] := by
  intro resolver query held
  have hroot : Contact.Meets resolver.config held.transcript.history.exchanges
      ⟨resolver.config.rootServer, query⟩ (.responds (Message.Completes resolver.config query
        [completeScript.web, completeScript.site] [completeScript.address])) := by
    decide +kernel
  exact lookup_of_completes resolver query Script.network completeScript
    [completeScript.web, completeScript.site] [completeScript.address] rfl (by decide) (by decide)
    (by decide) (by decide) hroot

end IterativeDns
