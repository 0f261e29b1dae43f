import IterativeDns.Proofs.Course
import IterativeDns.Proofs.Lifetime

/-!
# Every lookup takes its course

A lookup is a program, and what goes on in it is a tree of visits.  This file follows the program
and finds that tree in the history that it leaves behind, on any network.

* `Lookup.asks_ask` — what happens while a server is asked.
* `Lookup.Makes` — a part of a lookup consists of calls, and `Lookup.IsCall` — it is one call.
  There is one lemma for each part of a lookup.
* `Lookup.course_resolveAt` — what goes on in a visit is a course, if it calls others in the right
  way, and `Lookup.isCall_resolve` — it does.
* `Resolver.exists_course` — **every lookup takes its course.**
-/

namespace IterativeDns

namespace Lookup

variable {config : Config} {memory : Memory} {past : History} {visit : Visit}

/-! ## Asking -/

theorem awaits_noted {step : Step}
    (hsteady : (Occurrence.entry (.noted step)).isTurn = false) :
    visit.Awaits config (.entry (.noted step)) :=
  ⟨hsteady, rfl, fun _ _ h => nomatch h⟩

/-- A report is a note that does not matter. -/
theorem awaits_announce (event : TraceEvent) :
    (announce event).Ensures memory [] fun _ _ recent =>
      ∀ occurrence ∈ recent, occurrence = .entry (.noted (.traced event)) := by
  refine (ensures_announce event).mono ?_
  rintro - memory' recent ⟨-, -, rfl | rfl⟩
  · simp
  · simp

/-- The attempts to send a query go on until a datagram comes back. -/
theorem awaits_sendUntilReply (id : UInt16) (attempt attempts : Nat) :
    (sendUntilReply config visit.query visit.server id (Message.ofQuery id visit.query).encode
      attempt attempts).Ensures memory [] fun result _ recent =>
        match result with
        | none => (∀ occurrence ∈ recent, visit.Awaits config occurrence) ∧
            (0 < attempts → ∃ occurrence ∈ recent, occurrence.isExchange = true)
        | some octets => ∃ before delivery,
            recent = before ++ [.exchanged (visit.request config id) delivery] ∧
            (∀ occurrence ∈ before, visit.Awaits config occurrence) ∧
            (delivery.awaited (visit.request config id)).2 = .datagram octets := by
  induction attempts generalizing memory attempt with
  | zero => exact Ensures.pure ⟨by simp, fun h => absurd h (Nat.lt_irrefl 0)⟩
  | succ attempts ih =>
    refine (awaits_announce _).bind ?_
    intro _ memory₁ reports hreports
    have hreports : ∀ occurrence ∈ reports, visit.Awaits config occurrence := by
      intro occurrence hmem
      rw [hreports occurrence hmem]
      exact awaits_noted rfl
    refine (ensures_exchange visit.server _).bind ?_
    rintro _ _ _ ⟨delivery, rfl, rfl, rfl⟩
    cases hreply : (delivery.awaited (visit.request config id)).2 with
    | datagram octets =>
      rw [Visit.request] at hreply
      rw [hreply]
      exact Ensures.pure ⟨reports, delivery, rfl, hreports, hreply⟩
    | failure error =>
      have hearlier : ∀ occurrence ∈ reports ++
          [.exchanged (visit.request config id) delivery],
          visit.Awaits config occurrence := by
        intro occurrence hmem
        rcases List.mem_append.1 hmem with hmem | hmem
        · exact hreports occurrence hmem
        · rw [List.mem_singleton.1 hmem]
          refine ⟨rfl, Request.answer?_of_failure hreply, ?_⟩
          rintro _ _ ⟨⟩
          exact ⟨id, rfl⟩
      rw [Visit.request] at hreply
      rw [hreply]
      refine (ih (attempt + 1)).since.mono ?_
      rintro (_ | octets) memory' _ ⟨later, rfl, hlater⟩
      · refine ⟨List.forall_mem_append.2 ⟨hearlier, hlater.1⟩, fun _ => ?_⟩
        exact ⟨.exchanged (visit.request config id) delivery, by simp [Visit.request], rfl⟩
      · obtain ⟨before, delivery', rfl, hbefore, hreply'⟩ := hlater
        exact ⟨_, delivery', (List.append_assoc ..).symm,
          List.forall_mem_append.2 ⟨hearlier, hbefore⟩, hreply'⟩

/-- **What happens while a server is asked.** -/
theorem asks_ask (visit : Visit) :
    (ask config visit.query visit.server).Ensures memory [] fun result _ asked =>
      visit.Asks config asked result := by
  refine Ensures.drawId_bind fun id => ?_
  have hdrew : visit.Awaits config (.entry (.drew id)) := ⟨rfl, rfl, fun _ _ h => nomatch h⟩
  refine ((awaits_sendUntilReply id 0 (config.maxRetries + 1)).since).bind ?_
  rintro (_ | octets) memory₁ _ ⟨sent, rfl, hsent⟩
  · obtain ⟨occurrence, hmem, hexchange⟩ := hsent.2 (Nat.succ_pos _)
    refine Ensures.pure (.failed ?_ ⟨occurrence, by simp [hmem], hexchange⟩ rfl)
    simpa using ⟨hdrew, hsent.1⟩
  · obtain ⟨before, delivery, rfl, hbefore, hreply⟩ := hsent
    have hid : (visit.request config id).id = id := Request.id_of_payload rfl
    have hanswer := Request.answer?_of_datagram hreply
    rw [hid] at hanswer
    generalize hrequest : visit.request config id = request at *
    have hsends : visit.Sends config request := ⟨id, hrequest.symm⟩
    have hbefore : ∀ occurrence ∈ .entry (.drew id) :: before, visit.Awaits config occurrence := by
      simpa using ⟨hdrew, hbefore⟩
    dsimp only
    cases haccept : Message.accept id octets with
    | error fault =>
      rw [haccept] at hanswer
      have hlast : visit.Awaits config (.exchanged request delivery) := by
        refine ⟨rfl, hanswer, ?_⟩
        rintro _ _ ⟨⟩
        exact hsends
      refine Ensures.pure (.failed ?_ ⟨.exchanged request delivery, by simp, rfl⟩ rfl)
      have hall := List.forall_mem_append.2 ⟨hbefore, List.forall_mem_singleton.2 hlast⟩
      simpa using hall
    | ok message =>
      rw [haccept] at hanswer
      refine Ensures.note_bind ((awaits_announce _).since.bind ?_)
      rintro - memory' _ ⟨reports, rfl, hreports⟩
      have hafter : ∀ occurrence ∈
          .entry (.noted (.accepted visit.query visit.server message)) :: reports,
          occurrence.isTurn = false ∧ occurrence.isExchange = false := by
        refine List.forall_mem_cons.2 ⟨⟨rfl, rfl⟩, fun occurrence hmem => ?_⟩
        rw [hreports occurrence hmem]
        exact ⟨rfl, rfl⟩
      refine Ensures.pure ?_
      simpa using Visit.Asks.answered hbefore hsends hanswer hafter

/-! ## Calling -/

/-- A part of a lookup consists of calls, which `made` holds of together with its value. -/
def Makes (config : Config) (made : List Call → Answer → Prop) (program : Lookup Answer) : Prop :=
  ∀ memory, program.Ensures memory [] fun answer _ recent =>
    ∃ calls, made calls answer ∧ (∀ call ∈ calls, call.IsCourse config) ∧
      recent = calls.flatMap Call.span

/-- A part of a lookup is one call, for a visit. -/
def IsCall (config : Config) (visit : Visit) (program : Lookup Answer) : Prop :=
  Makes config (fun calls answer => ∃ call : Call, calls = [call] ∧ call.visit = visit ∧
    call.answer = answer) program

namespace Makes

variable {made first : List Call → Answer → Prop} {program : Lookup Answer}

theorem mono {made' : List Call → Answer → Prop} (h : Makes config made program)
    (hmade : ∀ calls answer, made calls answer → made' calls answer) :
    Makes config made' program := by
  intro memory
  refine (h memory).mono ?_
  rintro answer memory' recent ⟨calls, hcalls, hrecent⟩
  exact ⟨calls, hmade calls answer hcalls, hrecent⟩

theorem pure {answer : Answer} (h : made [] answer) :
    Makes config made (Pure.pure answer) :=
  fun _ => Ensures.pure ⟨[], h, by simp, rfl⟩

theorem get_bind {rest : Memory → Lookup Answer} (h : ∀ memory, Makes config made (rest memory)) :
    Makes config made (MonadState.get >>= rest) :=
  fun memory => Ensures.get_bind (h memory memory)

/-- Calls are made one after the other. -/
theorem bind {rest : Answer → Lookup Answer} (h : Makes config first program)
    (hrest : ∀ calls answer, first calls answer →
      Makes config (fun more => made (calls ++ more)) (rest answer)) :
    Makes config made (program >>= rest) := by
  intro memory
  refine (h memory).bind ?_
  rintro answer memory' _ ⟨calls, hcalls, hcourses, rfl⟩
  refine ((hrest calls answer hcalls) memory').since.mono ?_
  rintro answer' memory'' _ ⟨_, rfl, more, hmade, hmore, rfl⟩
  exact ⟨calls ++ more, hmade, List.forall_mem_append.2 ⟨hcourses, hmore⟩, by simp⟩

end Makes

/-- One call comes first. -/
theorem IsCall.bind {made : List Call → Answer → Prop} {program : Lookup Answer}
    {rest : Answer → Lookup Answer} (h : IsCall config visit program)
    (hrest : ∀ call : Call, call.visit = visit →
      Makes config (fun more => made (call :: more)) (rest call.answer)) :
    Makes config made (program >>= rest) := by
  refine Makes.bind h ?_
  rintro _ _ ⟨call, rfl, hvisit, rfl⟩
  exact hrest call hvisit

/-! ## Following up -/

theorem makes_tryEach {next : IpAddress → Lookup Answer}
    (hnext : ∀ server, IsCall config (visit.referral server) (next server))
    (last : ResolutionError) (servers : List IpAddress) :
    Makes config (visit.TriesServers last servers) (tryEach next last servers) := by
  induction servers generalizing last with
  | nil => exact Makes.pure (.noServers last)
  | cons server servers ih =>
    refine (hnext server).bind fun call hvisit => ?_
    cases hanswer : call.answer with
    | ok records =>
      refine Makes.pure ?_
      rw [← hanswer]
      exact .settled hvisit (by rw [hanswer]; rfl)
    | error error =>
      by_cases hwide : error.isLookupWide = true
      · simp only [hwide, if_true]
        refine Makes.pure ?_
        rw [← hanswer]
        exact .settled hvisit (by rw [hanswer]; exact hwide)
      · simp only [hwide, Bool.false_eq_true, if_false]
        exact (ih error).mono fun calls answer hrest =>
          .next hvisit hanswer (Bool.eq_false_iff.2 hwide) hrest

/-- The way in which a visit may go on to other servers: not at all, if it followed too many
referrals, and otherwise by calls to them. -/
def GoesOnward (config : Config) (visit : Visit) : Option (IpAddress → Lookup Answer) → Prop
  | none => config.maxReferrals ≤ visit.referrals
  | some next => visit.referrals < config.maxReferrals ∧
      ∀ server, IsCall config (visit.referral server) (next server)

section Parts

variable {nested : Purpose → Query → Lookup Answer} {onward : Option (IpAddress → Lookup Answer)}
  (honward : GoesOnward config visit onward)
  (hnameserver : ∀ name,
    IsCall config (visit.nameserver config name) (nested .nameserver ⟨name, .a⟩))
  (halias : ∀ target, IsCall config (visit.aliasTarget config target)
    (nested .aliasTarget { visit.query with name := target }))

include honward

theorem makes_tryServers (servers : List IpAddress) :
    Makes config (visit.Refers config servers) (tryServers config onward servers) := by
  cases onward with
  | none => exact Makes.pure (.limit honward)
  | some next =>
    exact (makes_tryEach honward.2 _ servers).mono fun calls answer h => .tries honward.1 h

include hnameserver

theorem makes_tryNameservers (last : ResolutionError) (names : List Name) :
    Makes config (visit.TriesNameservers config last names)
      (tryNameservers config nested onward last names) := by
  induction names generalizing last with
  | nil => exact Makes.pure (.noNames last)
  | cons name names ih =>
    refine (hnameserver name).bind fun call hvisit => ?_
    cases hanswer : call.answer with
    | error error =>
      by_cases hlimit : error.isLimit = true
      · simp only [hlimit, if_true]
        refine Makes.pure ?_
        rw [← hanswer]
        exact .limit hvisit (by rw [hanswer]; exact hlimit)
      · simp only [hlimit, Bool.false_eq_true, if_false]
        exact (ih last).mono fun calls answer hrest =>
          .passedOver hvisit (by rw [hanswer]; exact Bool.eq_false_iff.2 hlimit)
            (by rw [hanswer]; rfl) hrest
    | ok records =>
      have haddresses : call.answer.addresses = addressesOf records := by rw [hanswer]; rfl
      dsimp only
      cases hservers : addressesOf records with
      | nil =>
        exact (ih last).mono fun calls answer hrest =>
          .passedOver hvisit (by rw [hanswer]; rfl) (haddresses.trans hservers) hrest
      | cons server servers =>
        rw [hservers] at haddresses
        have hsome : call.answer.addresses ≠ [] := by simp [haddresses]
        refine Makes.bind (makes_tryServers honward (server :: servers)) ?_
        intro tried answer hrefers
        rw [← haddresses] at hrefers
        cases answer with
        | ok records =>
          refine Makes.pure ?_
          rw [List.append_nil]
          exact .settled hvisit hsome hrefers rfl
        | error error =>
          by_cases hwide : error.isLookupWide = true
          · simp only [hwide, if_true]
            refine Makes.pure ?_
            rw [List.append_nil]
            exact .settled hvisit hsome hrefers hwide
          · simp only [hwide, Bool.false_eq_true, if_false]
            exact (ih error).mono fun calls answer hrest =>
              .exhausted hvisit hsome hrefers (Bool.eq_false_iff.2 hwide) hrest

include halias

omit honward hnameserver in
theorem makes_chase (target : Name) :
    Makes config (visit.Pursues config (.ok (.aliased target)))
      (chase nested visit.query target) := by
  refine (halias target).bind fun call hvisit => ?_
  have haliased := Visit.Pursues.aliased hvisit
  cases hanswer : call.answer with
  | ok records =>
    rw [hanswer] at haliased
    exact Makes.pure haliased
  | error error =>
    rw [hanswer] at haliased
    exact Makes.pure haliased

/-- What a verdict means for a visit is pursued.  Answers that do not help may turn out to help
together with an alias. -/
theorem makes_act (verdict : Verdict) :
    Makes config (fun calls answer => visit.Pursues config (.ok verdict) calls answer ∨
        verdict = .unusable ∧ ∃ target, visit.Pursues config (.ok (.aliased target)) calls answer)
      (act config nested onward visit.query visit.server verdict) := by
  cases verdict with
  | final records => exact Makes.pure (.inl (.final records))
  | refused => exact Makes.pure (.inl .refused)
  | aliased target => exact (makes_chase halias target).mono fun _ _ h => .inl h
  | unusable =>
    refine Makes.get_bind fun memory => ?_
    cases memory.knownAlias? visit.query with
    | none => exact Makes.pure (.inl .unusable)
    | some target => exact (makes_chase halias target).mono fun _ _ h => .inr ⟨rfl, target, h⟩
  | servers addresses =>
    exact (makes_tryServers honward addresses).mono fun _ _ h => .inl (.servers h)
  | nameservers names =>
    exact (makes_tryNameservers honward hnameserver _ names).mono fun _ _ h =>
      .inl (.nameservers h)
  | deadEnd => exact Makes.pure (.inl .deadEnd)

/-- **What goes on in a visit is a course.** -/
theorem course_resolveAt (memory : Memory) :
    (resolveAt config nested onward visit.query visit.server).Ensures memory []
      fun answer _ recent => Course config visit recent answer := by
  refine Ensures.get_bind ?_
  cases hknown : memory.known visit.query with
  | cons record records =>
    exact Ensures.pure (.of_opens (.known (List.cons_ne_nil _ _)) (.final _))
  | nil =>
    refine Ensures.get_bind ?_
    cases memory.knownAlias? visit.query with
    | some target =>
      refine ((makes_chase halias target) memory).mono ?_
      rintro answer memory' _ ⟨calls, hpursues, hcalls, rfl⟩
      exact .intro (.knownAlias target) hpursues hcalls
    | none =>
      refine (asks_ask visit).bind ?_
      rintro (error | message) memory' asked hasks
      · exact Ensures.pure (.of_opens (.failed hasks) (.failed error))
      · refine Ensures.modify_bind ?_
        refine (makes_act honward hnameserver halias _ _).since.mono ?_
        rintro answer memory'' _ ⟨_, rfl, calls, hmade, hcalls, rfl⟩
        rcases hmade with hpursues | ⟨hverdict, target, hpursues⟩
        · exact .intro (.answered hasks) hpursues hcalls
        · exact .intro (.completed target hasks hverdict) hpursues hcalls

end Parts

/-! ## The two recursions -/

theorem isCall_visiting {body : Lookup Answer}
    (h : ∀ memory, body.Ensures memory [] fun answer _ recent =>
      Course config visit recent answer) :
    IsCall config visit (visiting visit body) := by
  intro memory
  refine Ensures.note_bind (((h memory).since).bind ?_)
  rintro answer memory' _ ⟨recent, rfl, hcourse⟩
  refine Ensures.note_bind (Ensures.pure ?_)
  refine ⟨[⟨visit, recent, answer⟩], ⟨_, rfl, rfl, rfl⟩, ?_, ?_⟩
  · exact List.forall_mem_singleton.2 hcourse
  · simp [Call.span]

/-- By induction on the referrals that are left. -/
theorem isCall_descend {nested : Purpose → Query → Lookup Answer} {depth : Nat} {query : Query}
    (halias : ∀ target, IsCall config
      ⟨.aliasTarget, { query with name := target }, config.rootServer, depth + 1, 0⟩
      (nested .aliasTarget { query with name := target }))
    (hnameserver : ∀ name, IsCall config
      ⟨.nameserver, ⟨name, .a⟩, config.rootServer, depth + 1, 0⟩ (nested .nameserver ⟨name, .a⟩))
    {left : Nat} (hleft : left ≤ config.maxReferrals) (purpose : Purpose) (server : IpAddress) :
    IsCall config ⟨purpose, query, server, depth, config.maxReferrals - left⟩
      (descend config nested depth query left purpose server) := by
  induction left generalizing purpose server with
  | zero =>
    have honward : GoesOnward config ⟨purpose, query, server, depth, config.maxReferrals⟩ none :=
      Nat.le_refl _
    have hcourse := course_resolveAt honward hnameserver halias
    exact isCall_visiting hcourse
  | succ left ih =>
    have hcount : config.maxReferrals - left = config.maxReferrals - (left + 1) + 1 := by omega
    have honward : GoesOnward config
        ⟨purpose, query, server, depth, config.maxReferrals - (left + 1)⟩
        (some (descend config nested depth query left .referral)) := by
      refine ⟨by simp only; omega, fun next => ?_⟩
      rw [Visit.referral, ← hcount]
      exact ih (Nat.le_of_succ_le hleft) .referral next
    have hcourse := course_resolveAt honward hnameserver halias
    exact isCall_visiting hcourse

/-- By induction on the levels that are left. -/
theorem isCall_resolve {levels : Nat} (hlevels : levels ≤ config.maxIndirection + 1)
    (purpose : Purpose) (query : Query) :
    IsCall config
      ⟨purpose, query, config.rootServer, config.maxIndirection + 1 - levels, 0⟩
      (resolve config levels purpose query) := by
  induction levels generalizing purpose query with
  | zero =>
    exact isCall_visiting fun memory => Ensures.pure (.of_opens (.tooDeep rfl) (.failed _))
  | succ left ih =>
    have hdeeper : config.maxIndirection + 1 - left = config.maxIndirection - left + 1 :=
      Nat.succ_sub (Nat.le_of_succ_le_succ hlevels)
    rw [hdeeper] at ih
    have hnested := ih (Nat.le_of_succ_le hlevels)
    have hdescend := isCall_descend
      (fun target => hnested .aliasTarget { query with name := target })
      (fun name => hnested .nameserver ⟨name, .a⟩) (Nat.le_refl _) purpose config.rootServer
    rw [Nat.sub_self] at hdescend
    rw [Nat.add_sub_add_right]
    exact hdescend

end Lookup

/-- The visit for the query of a lookup. -/
def Config.firstVisit (config : Config) (query : Query) : Visit :=
  ⟨.lookup, query, config.rootServer, 0, 0⟩

/-- **Every lookup takes its course,** on any network.  Nothing but a report can follow. -/
theorem Resolver.exists_course {σ : Type} (resolver : Resolver) (query : Query)
    (network : Network σ) (state : σ) :
    let config := resolver.config
    let held := (resolver.lookup query).hold network state
    ∃ call : Call, call.visit = config.firstVisit query ∧ call.answer = held.value.1 ∧
      call.IsCourse config ∧ ∃ reports : History,
        held.transcript.history = call.span ++ reports ∧
        ∀ occurrence ∈ reports, occurrence.isTurn = false ∧ occurrence.isExchange = false := by
  intro config held
  have hcall : Lookup.IsCall config (config.firstVisit query)
      (Lookup.resolve config (config.maxIndirection + 1) .lookup query) := by
    have h := Lookup.isCall_resolve (Nat.le_refl (config.maxIndirection + 1)) .lookup query
    rwa [Nat.sub_self] at h
  have hwhole : (Lookup.whole config query).Ensures resolver.memory [] fun answer _ past =>
      ∃ call : Call, call.visit = config.firstVisit query ∧ call.answer = answer ∧
        call.IsCourse config ∧ ∃ reports : History, past = call.span ++ reports ∧
          ∀ occurrence ∈ reports, occurrence.isTurn = false ∧ occurrence.isExchange = false := by
    refine (hcall resolver.memory).bind ?_
    rintro _ memory _ ⟨_, ⟨call, rfl, hvisit, rfl⟩, hcourse, rfl⟩
    have hcourse := hcourse call List.mem_cons_self
    cases hanswer : call.answer with
    | ok records =>
      exact Lookup.Ensures.pure ⟨call, hvisit, hanswer, hcourse, [], by simp, by simp⟩
    | error reason =>
      refine (Lookup.awaits_announce _).since.bind ?_
      rintro - memory' _ ⟨reports, rfl, hreports⟩
      refine Lookup.Ensures.pure ⟨call, hvisit, hanswer, hcourse, reports, by simp, ?_⟩
      intro occurrence hmem
      rw [hreports occurrence hmem]
      exact ⟨rfl, rfl⟩
  exact of_ensures hwhole network state

end IterativeDns
