import IterativeDns.Proofs.Lifetime
import IterativeDns.Resolution.Script
import Mathlib.Data.List.Chain

/-!
# Visits under way

A lookup visits servers, and one visit calls another: to follow a referral, to look up what an alias
stands for, or to find the address of a nameserver.  The two counters of a visit say how deep it
lies.  This file follows the visits under way through a whole lookup, on any network.

* `History.underWay` — the visits that have begun and not ended, the innermost first.
* `Visit.Calls` — what a call does to the counters, and `Config.Nested` — visits that called each
  other within the limits.  `Config.Nested.length_le` bounds their number.
* `History.Orderly` — at all times the visits under way are nested, only the innermost of them asks
  its server, and only it may end.
* `Resolver.lookup_ends` — **every lookup comes to an end, and is orderly on the way.**
-/

namespace IterativeDns

/-! ## Calls -/

/-- Something is looked up inside the lookup of another name. -/
def Purpose.isNested : Purpose → Bool
  | .aliasTarget => true
  | .nameserver => true
  | _ => false

/-- One visit calls another.  A referral keeps the query and the depth, and is counted; an alias and
a nameserver are looked up one level deeper, and their referrals are counted anew. -/
def Visit.Calls (outer inner : Visit) : Prop :=
  match inner.purpose with
  | .lookup => False
  | .referral =>
    inner.query = outer.query ∧ inner.depth = outer.depth ∧ inner.referrals = outer.referrals + 1
  | .aliasTarget =>
    inner.query.type = outer.query.type ∧ inner.depth = outer.depth + 1 ∧ inner.referrals = 0
  | .nameserver => inner.query.type = .a ∧ inner.depth = outer.depth + 1 ∧ inner.referrals = 0

/-- What a call does to the counters: it follows one more referral, or goes one level deeper. -/
theorem Visit.Calls.counters {outer inner : Visit} (h : outer.Calls inner) :
    (inner.purpose = .referral ∧
        inner.depth = outer.depth ∧ inner.referrals = outer.referrals + 1) ∨
      (inner.purpose.isNested = true ∧
        inner.depth = outer.depth + 1 ∧ inner.referrals = 0) := by
  unfold Calls at h
  split at h <;> rename_i hpurpose
  · exact h.elim
  · exact .inl ⟨hpurpose, h.2⟩
  · exact .inr ⟨by rw [hpurpose]; rfl, h.2⟩
  · exact .inr ⟨by rw [hpurpose]; rfl, h.2⟩

/-- Visits, the innermost first, each of which was called by the next one within the limits. -/
structure Config.Nested (config : Config) (visits : List Visit) : Prop where
  /-- Each visit was called by the one around it. -/
  calls : visits.IsChain fun inner outer => outer.Calls inner
  /-- The outermost visit is for the query of the lookup. -/
  outermost : ∀ visit ∈ visits.getLast?,
    visit.purpose = .lookup ∧ visit.depth = 0 ∧ visit.referrals = 0
  /-- No visit lies deeper than one level below the limit. -/
  depth_le : ∀ visit ∈ visits, visit.depth ≤ config.maxIndirection + 1
  /-- No visit comes after too many referrals. -/
  referrals_le : ∀ visit ∈ visits, visit.referrals ≤ config.maxReferrals
  /-- A visit below the limit calls no other. -/
  calling : ∀ visit ∈ visits.tail, visit.depth ≤ config.maxIndirection

namespace Config.Nested

variable {config : Config} {visit inner : Visit} {visits outer : List Visit}

theorem nil : config.Nested [] where
  calls := List.isChain_nil
  outermost _ hmem := nomatch hmem
  depth_le _ hmem := absurd hmem List.not_mem_nil
  referrals_le _ hmem := absurd hmem List.not_mem_nil
  calling _ hmem := absurd hmem List.not_mem_nil

theorem lookup (hpurpose : visit.purpose = .lookup) (hdepth : visit.depth = 0)
    (hreferrals : visit.referrals = 0) : config.Nested [visit] where
  calls := List.isChain_singleton _
  outermost found hmem := by
    cases hmem
    exact ⟨hpurpose, hdepth, hreferrals⟩
  depth_le found hmem := by
    rw [List.mem_singleton.1 hmem, hdepth]
    exact Nat.zero_le _
  referrals_le found hmem := by
    rw [List.mem_singleton.1 hmem, hreferrals]
    exact Nat.zero_le _
  calling _ hmem := absurd hmem List.not_mem_nil

/-- When a visit calls another one within the limits, they are nested again. -/
theorem call (h : config.Nested (visit :: outer)) (hcalls : visit.Calls inner)
    (hdepth : visit.depth ≤ config.maxIndirection)
    (hreferrals : inner.referrals ≤ config.maxReferrals) :
    config.Nested (inner :: visit :: outer) where
  calls := List.isChain_cons_cons.2 ⟨hcalls, h.calls⟩
  outermost found hmem := h.outermost found hmem
  depth_le := by
    have hcounters := hcalls.counters
    exact List.forall_mem_cons.2 ⟨by omega, h.depth_le⟩
  referrals_le := List.forall_mem_cons.2 ⟨hreferrals, h.referrals_le⟩
  calling := List.forall_mem_cons.2 ⟨hdepth, h.calling⟩

theorem tail (h : config.Nested visits) : config.Nested visits.tail := by
  cases visits with
  | nil => exact h
  | cons visit outer =>
    refine ⟨h.calls.tail, ?_, ?_, ?_, ?_⟩
    · cases outer with
      | nil => exact fun _ hmem => nomatch hmem
      | cons caller outer => exact fun found hmem => h.outermost found hmem
    · exact fun found hmem => h.depth_le found (List.mem_cons_of_mem _ hmem)
    · exact fun found hmem => h.referrals_le found (List.mem_cons_of_mem _ hmem)
    · exact fun found hmem => h.calling found (List.mem_of_mem_tail hmem)

/-- What is true of the outermost visit, and stays true when a referral is followed or another name
looked up, is true of all nested visits: by induction on the visits around. -/
@[elab_as_elim]
theorem induct {motive : Visit → List Visit → Prop} (h : config.Nested (visit :: outer))
    (lookup : ∀ visit, visit.purpose = .lookup → visit.depth = 0 → visit.referrals = 0 →
      motive visit [])
    (referral : ∀ visit caller outer, motive caller outer → visit.purpose = .referral →
      visit.depth = caller.depth → visit.referrals = caller.referrals + 1 →
      motive visit (caller :: outer))
    (nested : ∀ visit caller outer, motive caller outer →
      caller.referrals ≤ config.maxReferrals → visit.purpose.isNested = true →
      visit.depth = caller.depth + 1 → visit.referrals = 0 → motive visit (caller :: outer)) :
    motive visit outer := by
  induction outer generalizing visit with
  | nil =>
    obtain ⟨hpurpose, hdepth, hreferrals⟩ := h.outermost visit rfl
    exact lookup visit hpurpose hdepth hreferrals
  | cons caller outer ih =>
    have hcaller := ih h.tail
    have hlimit := h.referrals_le caller (List.mem_cons_of_mem _ List.mem_cons_self)
    have hcounters := (List.isChain_cons_cons.1 h.calls).1.counters
    rcases hcounters with ⟨hpurpose, hdepth, hcount⟩ | ⟨hpurpose, hdepth, hcount⟩
    · exact referral visit caller outer hcaller hpurpose hdepth hcount
    · exact nested visit caller outer hcaller hlimit hpurpose hdepth hcount

/-! ## How many visits -/

/-- The counters of a visit bound the number of visits around it: each level holds one visit more
than referrals may be followed. -/
theorem length_le_of_cons (h : config.Nested (visit :: outer)) :
    outer.length ≤ visit.depth * (config.maxReferrals + 1) + visit.referrals := by
  refine h.induct ?lookup ?referral ?nested
  case lookup =>
    intro visit _ _ _
    exact Nat.zero_le _
  case referral =>
    intro visit caller outer hcaller _ hdepth hcount
    rw [List.length_cons, hdepth, hcount]
    omega
  case nested =>
    intro visit caller outer hcaller hlimit _ hdepth hcount
    rw [List.length_cons, hdepth, hcount, Nat.succ_mul]
    omega

/-- Below the limit a visit has not followed a referral. -/
theorem referrals_eq_zero (h : config.Nested (visit :: outer))
    (hdepth : visit.depth = config.maxIndirection + 1) : visit.referrals = 0 := by
  cases outer with
  | nil =>
    have houtermost := h.outermost visit rfl
    omega
  | cons caller outer =>
    have hcaller := h.calling caller List.mem_cons_self
    have hcounters := (List.isChain_cons_cons.1 h.calls).1.counters
    omega

/-- **The limits bound the number of nested visits.** -/
theorem length_le (h : config.Nested visits) :
    visits.length ≤ (config.maxIndirection + 1) * (config.maxReferrals + 1) + 1 := by
  cases visits with
  | nil => exact Nat.zero_le _
  | cons visit outer =>
    have hlength := h.length_le_of_cons
    have hreferrals := h.referrals_le visit List.mem_cons_self
    have hlevels : (config.maxIndirection + 1) * (config.maxReferrals + 1) =
        config.maxIndirection * (config.maxReferrals + 1) + (config.maxReferrals + 1) :=
      Nat.succ_mul _ _
    rw [List.length_cons]
    rcases Nat.lt_or_eq_of_le (h.depth_le visit List.mem_cons_self) with hdepth | hdepth
    · have hinside : visit.depth * (config.maxReferrals + 1) ≤
          config.maxIndirection * (config.maxReferrals + 1) :=
        Nat.mul_le_mul_right _ (Nat.le_of_lt_succ hdepth)
      omega
    · rw [hdepth, h.referrals_eq_zero hdepth] at hlength
      omega

end Config.Nested

/-! ## Visits under way -/

/-- The visits under way after something happens. -/
def Occurrence.track (visits : List Visit) : Occurrence → List Visit
  | .entry (.noted (.entered visit)) => visit :: visits
  | .entry (.noted (.left _ _)) => visits.tail
  | _ => visits

/-- What may happen next while visits are under way: the innermost visit asks its own server its own
query, unless it lies below the limit, and only the innermost visit ends. -/
def Config.Permits (config : Config) (visits : List Visit) : Occurrence → Prop
  | .entry (.exchanged request _) =>
    ∃ visit ∈ visits.head?, visit.depth ≤ config.maxIndirection ∧
      ∃ id, request = config.request visit.server (Message.ofQuery id visit.query).encode
  | .entry (.noted (.left visit _)) => visits.head? = some visit
  | _ => True

namespace History

/-- The visits that have begun and not ended, the innermost first. -/
def underWay (past : History) : List Visit := past.foldl Occurrence.track []

/-- At all times the visits under way are nested, and nothing happens but what they permit. -/
structure Orderly (config : Config) (past : History) : Prop where
  /-- The visits under way are nested. -/
  nested : ∀ before : History, before <+: past → config.Nested before.underWay
  /-- What happens is permitted. -/
  permitted : ∀ (before : History) occurrence, before ++ [occurrence] <+: past →
    config.Permits before.underWay occurrence

variable {config : Config} {past : History} {visits outer : List Visit}

theorem underWay_append_singleton (past : History) (occurrence : Occurrence) :
    underWay (past ++ [occurrence]) = occurrence.track past.underWay := by
  rw [underWay, List.foldl_append]
  rfl

theorem orderly_nil (config : Config) : Orderly config [] where
  nested before hbefore := by
    rw [List.prefix_nil.1 hbefore]
    exact .nil
  permitted before occurrence hbefore := by
    have hnil := List.prefix_nil.1 hbefore
    simp at hnil

theorem Orderly.append (h : past.Orderly config) {occurrence : Occurrence}
    (hpermits : config.Permits past.underWay occurrence)
    (hnested : config.Nested (occurrence.track past.underWay)) :
    Orderly config (past ++ [occurrence]) where
  nested before hbefore := by
    rcases List.prefix_concat_iff.1 hbefore with rfl | hbefore
    · rw [underWay_append_singleton]
      exact hnested
    · exact h.nested before hbefore
  permitted before other hbefore := by
    rcases List.prefix_concat_iff.1 hbefore with heq | hbefore
    · obtain ⟨rfl, hother⟩ := List.append_inj' heq rfl
      cases hother
      exact hpermits
    · exact h.permitted before other hbefore

end History

namespace Lookup

variable {config : Config} {memory memory' : Memory} {past : History} {visit inner : Visit}
  {visits outer : List Visit}

/-! ## Steps of a lookup -/

/-- All was orderly so far, and just these visits are under way. -/
def Within (config : Config) (visits : List Visit) : Memory → History → Prop :=
  fun _ past => past.Orderly config ∧ past.underWay = visits

/-- Something happens that is permitted and changes the visits under way. -/
theorem Within.append (h : Within config visits memory past) (occurrence : Occurrence)
    (hpermits : config.Permits visits occurrence)
    (hnested : config.Nested (occurrence.track visits)) :
    Within config (occurrence.track visits) memory' (past ++ [occurrence]) := by
  obtain ⟨horderly, rfl⟩ := h
  exact ⟨horderly.append hpermits hnested, History.underWay_append_singleton past occurrence⟩

theorem Within.nested (h : Within config visits memory past) : config.Nested visits := by
  obtain ⟨horderly, rfl⟩ := h
  exact horderly.nested past (List.prefix_refl past)

/-- What goes on within visits leaves them under way. -/
theorem keeps_note (step : Step) (hsame : (Occurrence.entry (.noted step)).track visits = visits)
    (hpermits : config.Permits visits (.entry (.noted step))) :
    Keeps (Within config visits) (note step) := by
  intro memory past h
  have hnested := h.nested
  rw [← hsame] at hnested
  have hafter : Within config _ memory _ := h.append (.entry (.noted step)) hpermits hnested
  rw [hsame] at hafter
  exact Ensures.note hafter

theorem keeps_announce (event : TraceEvent) : Keeps (Within config visits) (announce event) := by
  refine Keeps.get.bind fun memory => ?_
  split
  · refine (keeps_note (.traced event) rfl trivial).bind fun _ => ?_
    exact fun memory past h => Ensures.modify h
  · exact Keeps.pure _

theorem keeps_exchange (id : UInt16) (hdepth : visit.depth ≤ config.maxIndirection) :
    Keeps (Within config (visit :: outer))
      (exchange config visit.server (Message.ofQuery id visit.query).encode) := by
  intro memory past h
  refine (ensures_exchange _ _).mono ?_
  rintro _ memory' _ ⟨delivery, -, -, rfl⟩
  exact h.append (.entry (.exchanged _ delivery)) ⟨visit, rfl, hdepth, id, rfl⟩ h.nested

theorem keeps_sendUntilReply (id : UInt16) (hdepth : visit.depth ≤ config.maxIndirection)
    (attempt attempts : Nat) :
    Keeps (Within config (visit :: outer)) (sendUntilReply config visit.query visit.server id
      (Message.ofQuery id visit.query).encode attempt attempts) := by
  induction attempts generalizing attempt with
  | zero => exact Keeps.pure _
  | succ attempts ih =>
    refine (keeps_announce _).bind fun _ => (keeps_exchange id hdepth).bind fun reply => ?_
    cases reply with
    | datagram octets => exact Keeps.pure _
    | failure error => exact ih (attempt + 1)

/-- **A visit asks its own server its own query,** and stays under way. -/
theorem keeps_ask (hdepth : visit.depth ≤ config.maxIndirection) :
    Keeps (Within config (visit :: outer)) (ask config visit.query visit.server) := by
  have hdraw : Keeps (Within config (visit :: outer)) drawId := fun memory past h =>
    Ensures.drawId fun id => h.append (.entry (.drew id)) trivial h.nested
  refine hdraw.bind fun id => (keeps_sendUntilReply id hdepth 0 _).bind fun reply => ?_
  cases reply with
  | none => exact Keeps.pure _
  | some octets =>
    dsimp only
    split
    · exact Keeps.pure _
    · refine (keeps_note (.accepted _ _ _) rfl trivial).bind fun _ => ?_
      exact (keeps_announce _).bind fun _ => Keeps.pure _

/-! ## Whole lookups -/

/-- What goes on within a visit goes on within its caller. -/
theorem keeps_visiting {body : Lookup Answer} (hnested : config.Nested (visit :: outer))
    (hbody : Keeps (Within config (visit :: outer)) body) :
    Keeps (Within config outer) (visiting visit body) := by
  intro memory past h
  have hentered : Within config (visit :: outer) memory _ :=
    h.append (.entry (.noted (.entered visit))) trivial hnested
  refine Ensures.note_bind ((hbody memory _ hentered).bind fun answer memory' past' h' => ?_)
  have hleft : Within config outer memory' _ :=
    h'.append (.entry (.noted (.left visit answer))) rfl hnested.tail
  exact Ensures.note_bind (Ensures.pure hleft)

/-- The sub-lookups of a visit go on within it. -/
def KeepsNested (config : Config) (nested : Purpose → Query → Lookup Answer) (depth : Nat)
    (query : Query) : Prop :=
  ∀ visit outer, visit.query = query → visit.depth = depth → config.Nested (visit :: outer) →
    (∀ target, Keeps (Within config (visit :: outer))
      (nested .aliasTarget { query with name := target })) ∧
    ∀ name, Keeps (Within config (visit :: outer)) (nested .nameserver ⟨name, .a⟩)

theorem keeps_resolveAt {nested : Purpose → Query → Lookup Answer}
    {onward : Option (IpAddress → Lookup Answer)} (hdepth : visit.depth ≤ config.maxIndirection)
    (hnested : config.Nested (visit :: outer))
    (hkeeps : KeepsNested config nested visit.depth visit.query)
    (honward : ∀ next ∈ onward, ∀ server, Keeps (Within config (visit :: outer)) (next server)) :
    Keeps (Within config (visit :: outer))
      (resolveAt config nested onward visit.query visit.server) := by
  obtain ⟨halias, hnameserver⟩ := hkeeps visit outer rfl rfl hnested
  refine Keeps.resolveAt halias hnameserver honward fun memory past h => ?_
  refine (keeps_ask hdepth memory past h).mono fun result memory' past' h' => ?_
  cases result with
  | error error => exact h'
  | ok message => exact h'

/-- By induction on the referrals that are left: each referral is one more on the counter. -/
theorem keeps_descend {nested : Purpose → Query → Lookup Answer} {depth : Nat} {query : Query}
    (hdepth : depth ≤ config.maxIndirection) (hkeeps : KeepsNested config nested depth query)
    {left : Nat} (hleft : left ≤ config.maxReferrals) {purpose : Purpose} {server : IpAddress}
    (hnested : config.Nested
      (⟨purpose, query, server, depth, config.maxReferrals - left⟩ :: outer)) :
    Keeps (Within config outer) (descend config nested depth query left purpose server) := by
  induction left generalizing purpose server outer with
  | zero =>
    refine keeps_visiting hnested (keeps_resolveAt hdepth hnested hkeeps ?_)
    intro next hnext
    cases hnext
  | succ left ih =>
    refine keeps_visiting hnested (keeps_resolveAt hdepth hnested hkeeps ?_)
    intro next hnext server
    cases hnext
    have hcount : config.maxReferrals - left = config.maxReferrals - (left + 1) + 1 := by omega
    exact ih (Nat.le_of_succ_le hleft)
      (hnested.call ⟨rfl, rfl, hcount⟩ hdepth (Nat.sub_le _ _))

/-- By induction on the levels that are left: each sub-lookup lies one level deeper. -/
theorem keeps_resolve {levels : Nat} (hlevels : levels ≤ config.maxIndirection + 1)
    {purpose : Purpose} {query : Query}
    (hnested : config.Nested
      (⟨purpose, query, config.rootServer, config.maxIndirection + 1 - levels, 0⟩ :: outer)) :
    Keeps (Within config outer) (resolve config levels purpose query) := by
  induction levels generalizing purpose query outer with
  | zero => exact keeps_visiting hnested (Keeps.pure _)
  | succ left ih =>
    have hdepth : config.maxIndirection + 1 - (left + 1) = config.maxIndirection - left :=
      Nat.add_sub_add_right _ _ _
    rw [hdepth] at hnested
    have hinside : config.maxIndirection - left ≤ config.maxIndirection := Nat.sub_le _ _
    have hdeeper : config.maxIndirection + 1 - left = config.maxIndirection - left + 1 :=
      Nat.succ_sub (Nat.le_of_succ_le_succ hlevels)
    have hkeeps : KeepsNested config (resolve config left) (config.maxIndirection - left)
        query := by
      rintro visit outer rfl hvisit hnested
      have hlimit : visit.depth ≤ config.maxIndirection := hvisit ▸ hinside
      rw [← hvisit] at hdeeper
      exact ⟨fun target => ih (Nat.le_of_succ_le hlevels)
          (hnested.call ⟨rfl, hdeeper, rfl⟩ hlimit (Nat.zero_le _)),
        fun name => ih (Nat.le_of_succ_le hlevels)
          (hnested.call ⟨rfl, hdeeper, rfl⟩ hlimit (Nat.zero_le _))⟩
    refine keeps_descend hinside hkeeps (Nat.le_refl _) ?_
    rw [Nat.sub_self]
    exact hnested

theorem keeps_whole (query : Query) : Keeps (Within config []) (whole config query) := by
  have hfirst : config.Nested [⟨.lookup, query, config.rootServer,
      config.maxIndirection + 1 - (config.maxIndirection + 1), 0⟩] :=
    .lookup rfl (Nat.sub_self _) rfl
  refine (keeps_resolve (Nat.le_refl _) hfirst).bind fun answer => ?_
  cases answer with
  | ok records => exact Keeps.pure _
  | error reason => exact (keeps_announce _).bind fun _ => Keeps.pure _

end Lookup

/-- What a lookup on any network leaves behind is orderly, and no visit is left under way. -/
theorem Resolver.orderly_lookup {σ : Type} (resolver : Resolver) (query : Query)
    (network : Network σ) (state : σ) :
    ((resolver.lookup query).hold network state).transcript.history.Orderly resolver.config ∧
      ((resolver.lookup query).hold network state).transcript.history.underWay = [] := by
  have hstart : Lookup.Within resolver.config [] resolver.memory [] :=
    ⟨History.orderly_nil resolver.config, rfl⟩
  exact of_ensures (Lookup.keeps_whole query resolver.memory [] hstart) network state

/-- **Every lookup comes to an end, and is orderly on the way.**  Whatever is drawn and delivered,
with any settings and any memory, the lookup goes on until there is an answer.  On the way each
visit was called within the limits, a query goes out from a visit within the limit of indirection
only, visits end in the reverse order in which they began, all of them do, and there are never more
of them under way than the limits allow. -/
theorem Resolver.lookup_ends {σ : Type} (resolver : Resolver) (query : Query)
    (network : Network σ) (state : σ) :
    let config := resolver.config
    let history := ((resolver.lookup query).hold network state).transcript.history
    (∀ run : Nat → Dialogue (Answer × Resolver), run 0 = resolver.lookup query →
      (∀ n, (∃ value, run n = .done value) ∨ (run n).Advances (run (n + 1))) →
      ∃ n value, run n = .done value) ∧
    history.Orderly config ∧ history.underWay = [] ∧
    ∀ past : History, past <+: history →
      past.underWay.length ≤ (config.maxIndirection + 1) * (config.maxReferrals + 1) + 1 := by
  intro config history
  obtain ⟨horderly, hended⟩ := resolver.orderly_lookup query network state
  refine ⟨fun run _ hrun => Dialogue.exists_done hrun, horderly, hended, fun past hpast => ?_⟩
  exact (horderly.nested past hpast).length_le

/-- A root server that refers all queries to one server, which answers with an alias. -/
def limitScript : Script where
  rules := [
    ⟨.v4 ⟨10, 0, 0, 1⟩, none, none, [.response false (·.addAdditional
      ⟨⟨"ns.example"⟩, .a, internetClass, 60, .a ⟨10, 0, 0, 2⟩⟩)]⟩,
    ⟨.v4 ⟨10, 0, 0, 2⟩, some ⟨"a.example"⟩, none, [.response true (·.addAnswer
      ⟨⟨"a.example"⟩, .cname, internetClass, 60, .cname ⟨"b.example"⟩⟩)]⟩,
    ⟨.v4 ⟨10, 0, 0, 2⟩, some ⟨"b.example"⟩, none, [.response true (·.addAnswer
      ⟨⟨"b.example"⟩, .cname, internetClass, 60, .cname ⟨"c.example"⟩⟩)]⟩]
  nextId := 7

/-- As many visits as the limits allow can be under way at a time. -/
example :
    let config : Config :=
      { rootServer := .v4 ⟨10, 0, 0, 1⟩, maxIndirection := 1, maxReferrals := 1 }
    let lookup := (Resolver.ofConfig config).lookup ⟨⟨"a.example"⟩, .a⟩
    let history := (lookup.hold Script.network limitScript).transcript.history
    (history.inits.map fun past : History => past.underWay.length).max? = some 5 := by
  decide +kernel

end IterativeDns
