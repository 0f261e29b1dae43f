import IterativeDns.Proofs.Decisions

/-!
# Answers without records

A lookup may end without records and without a failure.  That says something about the name that was
looked up, and so it must not happen by accident.  This file says that it happens only because a
server said so, and whenever one did.

* `Message.IsNegative` is what a server says then, and `Message.isNegative_of_verdict` — nothing
  else is read in this way.
* `Course.sometimes_denied` — a visit that ends without records was told so, and nothing was sent
  afterwards.
* `reachedName` — the name that is asked about, and `Config.Nested.query_eq` — it was reached from
  that of the lookup by aliases.
* `Resolver.lookup_eq_nil_iff` — **a lookup ends without records if and only if the last message
  that arrived says that there are none.**
-/

namespace IterativeDns

/-! ## Negative responses -/

namespace Message

variable {config : Config} {query : Query} {message : Message}

theorem answers_eq_nil_of_answerVerdict (h : message.answerVerdict config query = .final []) :
    message.answers = [] := by
  unfold answerVerdict at h
  by_cases hempty : message.answers.isEmpty = true
  · exact List.isEmpty_iff.1 hempty
  · rw [if_neg hempty] at h
    by_cases hany : query.type = .any
    · rw [if_pos hany] at h
      exact Verdict.final.inj h
    · rw [if_neg hany] at h
      split at h
      · split at h
        · cases h
        · cases h
      · rename_i hsome
        exact absurd (Verdict.final.inj h) hsome

/-- A referral leads to servers, to nameservers or nowhere. -/
theorem referralVerdict_cases (message : Message) :
    message.referralVerdict = .deadEnd ∨ (∃ names, message.referralVerdict = .nameservers names) ∨
      ∃ servers, message.referralVerdict = .servers servers := by
  unfold referralVerdict
  split
  · split
    · exact .inl rfl
    · exact .inr (.inl ⟨_, rfl⟩)
  · exact .inr (.inr ⟨_, rfl⟩)

/-- **Only a negative response says that there are no records.**  Its code lets the body be read. -/
theorem isNegative_of_verdict (hfault : message.response.fault? = none)
    (h : message.verdict config query = .final []) : message.IsNegative := by
  unfold verdict at h
  by_cases hname : message.response = .nameError
  · exact .inl hname
  · rw [if_neg hname] at h
    by_cases hrefused : message.response = .refused
    · rw [if_pos hrefused] at h
      cases h
    · have hok : message.response = .noError := by
        simpa [hname, hrefused] using ResponseCode.fault?_eq_none_iff.1 hfault
      rw [if_neg hrefused] at h
      by_cases hanswered : (message.isAuthoritative || !message.answers.isEmpty) = true
      · rw [if_pos hanswered] at h
        have hempty := answers_eq_nil_of_answerVerdict h
        exact .inr ⟨hok, by simpa [hempty] using hanswered, hempty⟩
      · rw [if_neg hanswered] at h
        rcases message.referralVerdict_cases with heq | ⟨names, heq⟩ | ⟨servers, heq⟩ <;>
          simp [heq] at h

end Message

/-- The response code of a message that answers a request lets the body be read. -/
theorem Request.fault?_of_answer? {request : Request} {delivery : Delivery} {message : Message}
    (h : request.answer? delivery = some message) : message.response.fault? = none := by
  obtain ⟨payload, -, hdecode, -⟩ := Request.answer?_eq_some.1 h
  exact Message.fault?_of_decode hdecode

/-! ## How a visit ends without records -/

section Courses

variable {config : Config} {visit : Visit} {past recent opening : History} {answer : Answer}
  {outer : List Visit}

/-- A visit that finds that there are no records was told so by its server. -/
theorem Visit.Opens.denied (h : visit.Opens config opening (.ok (.final []))) :
    ∃ before occurrence after, opening = before ++ occurrence :: after ∧
      occurrence.Decides [] (.ok []) ∧ History.Unwinds (.ok []) after := by
  obtain ⟨before, request, delivery, message, after, hopening, hanswer, hverdict, hafter⟩ :=
    h.exists_answer (by simp) (by simp)
  have hnegative := Message.isNegative_of_verdict (Request.fault?_of_answer? hanswer) hverdict
  exact ⟨before, _, after, hopening, .negative (by simp [NoNameserver]) hanswer hnegative,
    .of_still hafter⟩

/-- **A visit that ends without records was told so,** itself or in the visits that it made in the
end, none of which is for the name of a nameserver. -/
theorem Course.sometimes_denied (h : Course config visit recent answer) (hempty : answer = .ok [])
    (hpast : past.underWay = visit :: outer) :
    History.Sometimes (fun before occurrence rest => ∃ inner,
      before.underWay = inner ++ visit :: outer ∧ occurrence.Decides inner (.ok []) ∧
        rest.Unwinds (.ok [])) past recent := by
  induction h generalizing past outer with
  | @intro visit opening found calls answer hopens hpursues hcalls ih =>
    subst hempty
    rcases hpursues.of_settled rfl with
      ⟨rfl, ⟨records, rfl, hfinal⟩ | ⟨error, -, herror⟩⟩ | hlimit | ⟨made, call, rfl, hlast⟩
    · -- it is the server of this visit that says so
      cases hfinal
      obtain ⟨before, occurrence, after, rfl, hdecides, hafter⟩ := hopens.denied
      have hbefore : (past ++ before).underWay = visit :: outer := by
        rw [hopens.underWay_append, hpast]
      exact ⟨before, occurrence, after, by simp, [], hbefore, hdecides, hafter⟩
    · cases herror
    · cases hlimit
    · -- it is the last call that ends without records
      have hcall : call.answer = .ok [] ∧ call.visit.purpose ≠ .nameserver := by
        rcases hlast with ⟨server, hvisit, hanswer⟩ | ⟨target, hvisit, hanswer⟩
        · exact ⟨hanswer.symm, by simp [hvisit, Visit.referral]⟩
        · refine ⟨?_, by simp [hvisit, Visit.aliasTarget]⟩
          cases hreported : call.answer with
          | ok records =>
            rw [hreported] at hanswer
            have hmap : [] = records.map (·.rekeyed visit.query) := Except.ok.inj hanswer
            rw [List.map_eq_nil_iff.1 hmap.symm]
          | error error =>
            rw [hreported] at hanswer
            cases hanswer
      have hmade := hopens.underWay_append_calls hpast fun call hmem =>
        hcalls call (List.mem_append_left _ hmem)
      have hentered : (past ++ opening ++ made.flatMap Call.span ++
          [Occurrence.entered call.visit]).underWay = call.visit :: visit :: outer := by
        rw [History.underWay_append_entered, hmade]
      have hinside := ih call (by simp) hcall.1 hentered
      rw [List.flatMap_append, List.flatMap_singleton]
      refine .append_right (.append_right (Call.sometimes_span (hinside.mono ?_)))
      rintro before occurrence rest ⟨inner, hinner, hdecides, hrest⟩
      refine ⟨inner ++ [call.visit], by simp [hinner], ?_, ?_⟩
      · exact hdecides.append (List.forall_mem_singleton.2 hcall.2)
      · rw [hcall.1]
        exact hrest.append (History.Unwinds.nil.cons_left call.visit)

end Courses

/-- Nothing arrives without being asked for. -/
theorem Occurrence.answer?_eq_none {occurrence : Occurrence}
    (h : occurrence.isExchange = false) : occurrence.answer? = none := by
  unfold isExchange at h
  unfold answer?
  split at h
  · cases h
  · grind

/-! ## What is asked about -/

/-- The name that visits under way are about: what the innermost alias stands for, or the name of
the lookup. -/
def reachedName (name : Name) : List Visit → Name
  | [] => name
  | visit :: outer =>
    if visit.purpose = .aliasTarget then visit.query.name else reachedName name outer

/-- **Apart from nameservers, all visits are for the query of the lookup,** but for the names that
aliases stand for.  The induction is on the visits around. -/
theorem Config.Nested.query_eq {config : Config} {query : Query} {visit : Visit}
    {outer : List Visit} (h : config.Nested (visit :: outer))
    (hfirst : ∀ first ∈ (visit :: outer).getLast?, first.query = query)
    (hapart : NoNameserver (visit :: outer)) :
    visit.query = { query with name := reachedName query.name (visit :: outer) } := by
  induction outer generalizing visit with
  | nil =>
    obtain ⟨hpurpose, -⟩ := h.outermost visit rfl
    simp [reachedName, hpurpose, hfirst visit rfl]
  | cons caller outer ih =>
    have hcaller := ih h.tail hfirst fun other hmem => hapart other (List.mem_cons_of_mem _ hmem)
    have hcalls := (List.isChain_cons_cons.1 h.calls).1
    unfold reachedName
    unfold Visit.Calls at hcalls
    split at hcalls <;> rename_i hpurpose
    · exact hcalls.elim
    · rw [if_neg (by simp [hpurpose]), hcalls.1]
      exact hcaller
    · rw [if_pos hpurpose]
      have htype : visit.query.type = query.type := by
        rw [hcalls.1, hcaller]
      rw [← htype]
    · exact absurd hpurpose (hapart visit List.mem_cons_self)

/-- A message arrives in answer to the query of a lookup, perhaps about a name that was reached from
that of the lookup by aliases, and the query is not part of the lookup of a nameserver. -/
structure AnswersLookup (config : Config) (query : Query) (past : History) (request : Request)
    (delivery : Delivery) (message : Message) : Prop where
  /-- The message arrives. -/
  answered : request.answer? delivery = some message
  /-- No nameserver is being looked up. -/
  apart : NoNameserver past.underWay
  /-- The innermost visit asks its server the query about the name that was reached. -/
  asked : ∃ visit ∈ past.underWay.head?, visit.Sends config request ∧
    visit.query = { query with name := reachedName query.name past.underWay }

/-! ## Whole lookups -/

namespace Resolver

variable {σ : Type} (resolver : Resolver) (query : Query) (network : Network σ) (state : σ)
  {past rest : History} {request : Request} {delivery : Delivery} {message : Message}

/-- Every message that arrives while no nameserver is being looked up answers the lookup. -/
theorem answersLookup
    (hhistory : ((resolver.lookup query).hold network state).transcript.history =
      past ++ .exchanged request delivery :: rest)
    (hanswer : request.answer? delivery = some message) (hapart : NoNameserver past.underWay) :
    AnswersLookup resolver.config query past request delivery message := by
  refine ⟨hanswer, hapart, ?_⟩
  obtain ⟨horderly, -⟩ := resolver.orderly_lookup query network state
  have hprefix : past ++ [.exchanged request delivery] <+:
      ((resolver.lookup query).hold network state).transcript.history :=
    ⟨rest, by rw [hhistory]; simp⟩
  have hnested := horderly.nested past ((List.prefix_append _ _).trans hprefix)
  obtain ⟨visit, hvisit, -, hsends⟩ := horderly.permitted past _ hprefix
  refine ⟨visit, hvisit, hsends, ?_⟩
  obtain ⟨inside, hinside⟩ := resolver.exists_inside query network state hhistory
    (.inl ⟨request, delivery, rfl⟩)
  obtain ⟨outer, hunderWay⟩ := List.head?_eq_some_iff.1 (Option.mem_def.1 hvisit)
  rw [hunderWay] at hnested hapart hinside ⊢
  refine hnested.query_eq ?_ hapart
  intro first hfirst
  rw [hinside, List.getLast?_concat] at hfirst
  cases hfirst
  rfl

/-- **A lookup without records was told so,** and nothing was sent afterwards. -/
theorem exists_denial (hempty : ((resolver.lookup query).hold network state).value.1 = .ok []) :
    ∃ (past : History) (request : Request) (delivery : Delivery) (rest : History)
      (message : Message),
      ((resolver.lookup query).hold network state).transcript.history =
        past ++ .exchanged request delivery :: rest ∧
      AnswersLookup resolver.config query past request delivery message ∧ message.IsNegative ∧
      rest.Unwinds (.ok []) := by
  obtain ⟨call, hvisit, hanswer, hcourse, reports, hhistory, hreports⟩ :=
    resolver.exists_course query network state
  rw [hempty] at hanswer
  have hentered : History.underWay [.entered call.visit] = [call.visit] := rfl
  obtain ⟨before, occurrence, inside, hinside, inner, hinner, hdecides, hunwinds⟩ :=
    hcourse.sometimes_denied hanswer hentered
  cases hdecides with
  | @negative request delivery message hapart hmessage hnegative =>
    have hsplit : ((resolver.lookup query).hold network state).transcript.history =
        .entered call.visit :: before ++ .exchanged request delivery ::
          (inside ++ .left call.visit (.ok []) :: reports) := by
      rw [hhistory, Call.span, hinside, hanswer]
      simp
    have houtside : NoNameserver [call.visit] := by
      simp [NoNameserver, hvisit, Config.firstVisit]
    refine ⟨_, _, _, _, message, hsplit, ?_, hnegative,
      hunwinds.append (.cons_left (.of_still hreports) call.visit)⟩
    refine resolver.answersLookup query network state hsplit hmessage ?_
    rw [List.cons_append, List.nil_append] at hinner
    rw [hinner]
    exact List.forall_mem_append.2 ⟨hapart, houtside⟩

/-- **A lookup ends without records if and only if it was told so in the end.**  Whatever happens on
the network, the answer is that there are no records just if the last message that arrived says so,
as an answer to the query of the lookup or to the same query about what its name is an alias for.
Nothing is sent after that message then, no visit fails after it, and no limit was reached. -/
theorem lookup_eq_nil_iff {σ : Type} (resolver : Resolver) (query : Query) (network : Network σ)
    (state : σ) :
    let held := (resolver.lookup query).hold network state
    let history := held.transcript.history
    (held.value.1 = .ok [] ↔
      ∃ past request delivery rest message,
        history = past ++ .exchanged request delivery :: rest ∧
        AnswersLookup resolver.config query past request delivery message ∧ message.IsNegative ∧
        ∀ occurrence ∈ rest, occurrence.answer? = none) ∧
    (held.value.1 = .ok [] →
      (∃ (past : History) (occurrence : Occurrence) (rest : History) (message : Message),
        history = past ++ occurrence :: rest ∧ occurrence.answer? = some message ∧
        message.IsNegative ∧ rest.Unwinds (.ok [])) ∧
      ∀ visit error, .left visit (.error error) ∈ history → error.isLimit = false) := by
  intro held history
  refine ⟨⟨?_, ?_⟩, ?_⟩
  · intro hempty
    obtain ⟨past, request, delivery, rest, message, hhistory, hanswers, hnegative, hunwinds⟩ :=
      resolver.exists_denial query network state hempty
    refine ⟨past, request, delivery, rest, message, hhistory, hanswers, hnegative, ?_⟩
    intro occurrence hmem
    exact Occurrence.answer?_eq_none (hunwinds occurrence hmem).1
  · rintro ⟨past, request, delivery, rest, message, hhistory, hanswers, hnegative, -⟩
    exact (resolver.absorbs query network state hhistory
      (.negative hanswers.apart hanswers.answered hnegative)).1
  · intro hempty
    constructor
    · obtain ⟨past, request, delivery, rest, message, hhistory, hanswers, hdenial⟩ :=
        resolver.exists_denial query network state hempty
      exact ⟨past, .exchanged request delivery, rest, message, hhistory, hanswers.answered,
        hdenial⟩
    · intro visit error hmem
      obtain ⟨past, rest, hhistory⟩ := List.append_of_mem hmem
      by_cases hlimit : error.isLimit = true
      · have hfails := (resolver.absorbs query network state hhistory (.limit hlimit)).1
        rw [hfails] at hempty
        cases hempty
      · exact Bool.eq_false_iff.2 hlimit

/-- A network on which `www.example.com` is an alias for `web.example.net`.  That name has two
nameservers.  The first one has no address, and the second one has two of them: nobody answers at
the one, and the other one belongs to an authority that knows of no records. -/
def deniedScript : Script where
  rules := [
    ⟨.v4 ⟨10, 0, 0, 1⟩, some ⟨"www.example.com"⟩, none, [.response true (·.addAnswer
      ⟨⟨"www.example.com"⟩, .cname, internetClass, 60, .cname ⟨"web.example.net"⟩⟩)]⟩,
    ⟨.v4 ⟨10, 0, 0, 1⟩, some ⟨"web.example.net"⟩, none, [.response false fun message =>
      (message.addAuthority
        ⟨⟨"example.net"⟩, .ns, internetClass, 60, .ns ⟨"ns1.example.org"⟩⟩).addAuthority
        ⟨⟨"example.net"⟩, .ns, internetClass, 60, .ns ⟨"ns2.example.org"⟩⟩]⟩,
    ⟨.v4 ⟨10, 0, 0, 1⟩, some ⟨"ns1.example.org"⟩, none, [.response true id]⟩,
    ⟨.v4 ⟨10, 0, 0, 1⟩, some ⟨"ns2.example.org"⟩, none, [.response true fun message =>
      (message.addAnswer
        ⟨⟨"ns2.example.org"⟩, .a, internetClass, 60, .a ⟨10, 0, 0, 2⟩⟩).addAnswer
        ⟨⟨"ns2.example.org"⟩, .a, internetClass, 60, .a ⟨10, 0, 0, 3⟩⟩]⟩,
    ⟨.v4 ⟨10, 0, 0, 3⟩, none, none, [.response true id]⟩]
  nextId := 7

/-- The lookup of the first nameserver ends without records, too, but that decides nothing. -/
theorem lookup_eq_nil_denied :
    let resolver := Resolver.ofConfig { rootServer := .v4 ⟨10, 0, 0, 1⟩, maxRetries := 0 }
    let query : Query := ⟨⟨"www.example.com"⟩, .a⟩
    let held := (resolver.lookup query).hold Script.network deniedScript
    let history := held.transcript.history
    held.value.1 = .ok [] ∧
      (∃ past request delivery rest message,
        history = past ++ .exchanged request delivery :: rest ∧
        AnswersLookup resolver.config query past request delivery message ∧ message.IsNegative ∧
        ∀ occurrence ∈ rest, occurrence.answer? = none) ∧
      ∃ (past : History) (occurrence : Occurrence) (rest : History) (message : Message),
        history = past ++ occurrence :: rest ∧ occurrence.answer? = some message ∧
        message.IsNegative ∧ rest.Unwinds (.ok []) := by
  intro resolver query
  have hempty : ((resolver.lookup query).hold Script.network deniedScript).value.1 = .ok [] := by
    decide +kernel
  have hiff := lookup_eq_nil_iff resolver query Script.network deniedScript
  exact ⟨hempty, hiff.1.1 hempty, (hiff.2 hempty).1⟩

end Resolver

end IterativeDns
