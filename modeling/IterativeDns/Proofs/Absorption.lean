import IterativeDns.Proofs.Decisions

/-!
# Failures that end a lookup

A limit that is reached ends a lookup, and so does an alias whose target cannot be found, unless
this happens in the lookup of a nameserver: then another nameserver may do.  This file says how
failed aliases are reported and what follows upon the failure of a nameserver.

* `Course.isReportedOnce` — the failure of an alias has no other one inside.
* `Course.takesNext` — the next nameserver is looked up after one that could not be resolved.
* `Resolver.failures_absorb` — **limits and failed aliases end a lookup, and a failed alias in the
  lookup of a nameserver ends that one only.**
-/

namespace IterativeDns

/-! ## Failed aliases -/

/-- The failure of an alias is reported once: inside it is the failure of one server, and neither
that of another alias nor that of a limit. -/
def Answer.IsReportedOnce (answer : Answer) : Prop :=
  ∀ target reason, answer = .error (.aliasUnresolved target reason) → reason.isLookupWide = false

namespace Answer

variable {answer : Answer}

theorem isReportedOnce_of_unsettled (h : answer.isSettled = false) : answer.IsReportedOnce := by
  rintro target reason rfl
  cases h

theorem isReportedOnce_of_isLimit (h : answer.isLimit = true) : answer.IsReportedOnce := by
  rintro target reason rfl
  cases h

theorem IsReportedOnce.throughAlias (h : answer.IsReportedOnce) (query : Query) (target : Name) :
    (answer.throughAlias query target).IsReportedOnce := by
  intro found reason hanswer
  cases answer with
  | ok records => cases hanswer
  | error error =>
    have hfailure : error.forAlias target = .aliasUnresolved found reason :=
      Except.error.inj hanswer
    unfold ResolutionError.forAlias at hfailure
    split at hfailure
    · exact h found reason (congrArg Except.error hfailure)
    · rename_i hwide
      cases hfailure
      exact Bool.eq_false_iff.2 hwide

end Answer

/-- A failure that is no limit is that of an alias already or becomes one. -/
theorem ResolutionError.exists_forAlias_eq {error : ResolutionError}
    (hlimit : error.isLimit = false) (honce : Answer.IsReportedOnce (.error error)) (name : Name) :
    ∃ target reason, error.forAlias name = .aliasUnresolved target reason ∧
      reason.isLookupWide = false ∧
      (error = .aliasUnresolved target reason ∨ target = name ∧ reason = error) := by
  unfold forAlias
  by_cases hwide : error.isLookupWide = true
  · rw [if_pos hwide]
    cases error with
    | aliasUnresolved target reason =>
      exact ⟨target, reason, rfl, honce target reason rfl, .inl rfl⟩
    | indirectionLimit limit => cases hlimit
    | referralLimit limit => cases hlimit
    | _ => cases hwide
  · rw [if_neg hwide]
    exact ⟨name, error, rfl, Bool.eq_false_iff.2 hwide, .inr ⟨rfl, rfl⟩⟩

section Reports

variable {config : Config} {visit : Visit} {past recent opening : History} {answer : Answer}
  {outer : List Visit}

theorem Visit.Opens.isReportedOnce {error : ResolutionError}
    (h : visit.Opens config opening (.error error)) : Answer.IsReportedOnce (.error error) := by
  cases h with
  | tooDeep hdepth => exact Answer.isReportedOnce_of_isLimit rfl
  | failed hasks =>
    cases hasks with
    | failed hawaits hsent hbranch => exact Answer.isReportedOnce_of_unsettled hbranch

/-- **The failure of an alias is reported once,** however many aliases lead there. -/
theorem Course.isReportedOnce (h : Course config visit recent answer) : answer.IsReportedOnce := by
  induction h with
  | @intro visit opening found calls answer hopens hpursues hcalls ih =>
    by_cases hsettled : answer.isSettled = true
    · rcases hpursues.of_settled hsettled with
        ⟨-, ⟨records, -, rfl⟩ | ⟨error, rfl, rfl⟩⟩ | hlimit | ⟨before, call, rfl, hlast⟩
      · intro target reason hanswer
        cases hanswer
      · exact hopens.isReportedOnce
      · exact Answer.isReportedOnce_of_isLimit hlimit
      · have hcall := ih call (by simp)
        rcases hlast with ⟨server, -, rfl⟩ | ⟨target, -, rfl⟩
        · exact hcall
        · exact hcall.throughAlias _ _
    · exact Answer.isReportedOnce_of_unsettled (Bool.eq_false_iff.2 hsettled)

/-- This is true of all visits inside a visit. -/
theorem Course.always_isReportedOnce (h : Course config visit recent answer)
    (hpast : past.underWay = visit :: outer) :
    History.Always (fun _ occurrence _ => ∀ ended settled, occurrence = .left ended settled →
      Answer.IsReportedOnce settled) past recent := by
  induction h generalizing past outer with
  | @intro visit opening found calls answer hopens hpursues hcalls ih =>
    refine Course.always hpast hopens hcalls ?_ ?_
    · rintro before _ rest hopening _ ended settled rfl
      have hsteady := hopens.steady (.left ended settled) (by simp [hopening])
      cases hsteady
    · intro made call later hsplit start _ hstart
      have hmem : call ∈ calls := by simp [hsplit]
      constructor
      case begins =>
        intro ended settled heq
        cases heq
      case goesOn => exact ih call hmem
      case ends =>
        intro finish _ _ ended settled heq
        cases heq
        exact (hcalls call hmem).isReportedOnce

/-! ## The next nameserver -/

/-- The innermost of some visits was referred to nameservers by a message that arrived, and the
visits are under way ever since. -/
def History.Referred (config : Config) (visit : Visit) (outer : List Visit) (names : List Name)
    (past : History) : Prop :=
  ∃ before request delivery message after, past = before ++ .exchanged request delivery :: after ∧
    History.underWay before = visit :: outer ∧ request.answer? delivery = some message ∧
    message.verdict config visit.query = .nameservers names ∧
    History.Always (fun past _ _ => ∃ inside, past.underWay = inside ++ visit :: outer)
      (before ++ [.exchanged request delivery]) after

/-- After the lookup of a nameserver comes that of the next one that the same message names.  If
there is none, its visit fails in a way that leaves it to other servers. -/
def History.TakesNext (config : Config) (past : History) (ended : Visit) (outer : List Visit)
    (next : Option Occurrence) : Prop :=
  ∃ visit around earlier later, outer = visit :: around ∧
    past.Referred config visit around (earlier ++ ended.query.name :: later) ∧
    match later with
    | [] => ∃ error, next = some (.left visit (.error error)) ∧ error.isLookupWide = false
    | name :: _ => next = some (.entered (visit.nameserver config name))

/-- A visit that found nameservers was referred to them. -/
theorem Visit.Opens.referred {names : List Name} {next : History}
    (h : visit.Opens config opening (.ok (.nameservers names)))
    (hpast : past.underWay = visit :: outer)
    (hwithin : History.Always (fun past _ _ => ∃ inside, past.underWay = inside ++ visit :: outer)
      past (opening ++ next)) : (past ++ (opening ++ next)).Referred config visit outer names := by
  obtain ⟨before, request, delivery, message, after, rfl, hanswer, hverdict, -⟩ :=
    h.exists_answer (by simp) (by simp)
  refine ⟨past ++ before, request, delivery, message, after ++ next, by simp, ?_, hanswer, hverdict,
    ?_⟩
  · rw [h.underWay_append, hpast]
  · rw [List.append_assoc, List.cons_append, List.append_cons] at hwithin
    rw [List.append_assoc]
    exact hwithin.of_append.2

/-- A call for a nameserver that could not be resolved is followed by the next one. -/
theorem Visit.Opens.takesNext {found : Except ResolutionError Verdict}
    {calls made later : List Call} {call : Call} {error : ResolutionError}
    (hopens : visit.Opens config opening found) (hpursues : visit.Pursues config found calls answer)
    (hsplit : calls = made ++ call :: later) (hpast : past.underWay = visit :: outer)
    (hwithin : History.Always (fun past _ _ => ∃ inside, past.underWay = inside ++ visit :: outer)
      past (opening ++ calls.flatMap Call.span))
    (hanswer : call.answer = .error error) (hpurpose : call.visit.purpose = .nameserver)
    (hlimit : error.isLimit = false) :
    History.TakesNext config
      (past ++ (opening ++ (made.flatMap Call.span ++ .entered call.visit :: call.history)))
      call.visit (visit :: outer)
      (later.flatMap Call.span ++ [Occurrence.left visit answer]).head? := by
  obtain ⟨earlier, name, others, rfl, hvisit, hnext⟩ :=
    hpursues.next_of_call hsplit hpurpose (by rw [hanswer]; exact hlimit) (by rw [hanswer]; rfl)
  have hname : call.visit.query.name = name := by
    rw [hvisit]
    rfl
  have hsegment : opening ++ calls.flatMap Call.span =
      opening ++ (made.flatMap Call.span ++ .entered call.visit :: call.history) ++
        .left call.visit call.answer :: later.flatMap Call.span := by
    rw [hsplit]
    simp [Call.span]
  rw [hsegment] at hwithin
  refine ⟨visit, outer, earlier, others, rfl, ?_, ?_⟩
  · rw [hname]
    exact hopens.referred hpast hwithin.of_append.1
  · cases others with
    | nil =>
      obtain ⟨rfl, hunsettled⟩ := hnext
      obtain ⟨error, rfl, hbranch⟩ := Answer.isSettled_eq_false_iff.1 hunsettled
      exact ⟨error, rfl, hbranch⟩
    | cons next others =>
      obtain ⟨following, hfollowing, hvisit'⟩ := hnext
      obtain ⟨more, rfl⟩ := List.head?_eq_some_iff.1 (Option.mem_def.1 hfollowing)
      show some (Occurrence.entered following.visit) = _
      rw [hvisit']

/-- **A nameserver that could not be resolved is followed by the next one,** unless a limit was
reached. -/
theorem Course.takesNext (h : Course config visit recent answer)
    (hpast : past.underWay = visit :: outer) :
    History.Always (fun before occurrence rest => ∀ ended error,
      occurrence = .left ended (.error error) → ended.purpose = .nameserver →
      error.isLimit = false →
      History.TakesNext config before ended before.underWay.tail
        (rest ++ [Occurrence.left visit answer]).head?) past recent := by
  have hwithin := h.within hpast
  induction h generalizing past outer with
  | @intro visit opening found calls answer hopens hpursues hcalls ih =>
    refine Course.always hpast hopens hcalls ?_ ?_
    · rintro before _ rest hopening _ ended error rfl
      have hsteady := hopens.steady (.left ended (.error error)) (by simp [hopening])
      cases hsteady
    · intro made call later hsplit start hpassed hstart
      have hmem : call ∈ calls := by simp [hsplit]
      constructor
      case begins =>
        intro ended error heq
        cases heq
      case goesOn =>
        intro hentered
        refine (ih call hmem hentered ((hcalls call hmem).within hentered)).mono ?_
        intro before occurrence rest hinside ended error heq hpurpose hlimit
        have hnext := hinside ended error heq hpurpose hlimit
        simpa [List.head?_append] using hnext
      case ends =>
        intro finish hfinished hfinish ended error heq hpurpose hlimit
        obtain ⟨rfl, hanswer⟩ : call.visit = ended ∧ call.answer = .error error := by
          simpa using heq
        have hsegment : finish = past ++ (opening ++ (made.flatMap Call.span ++
            .entered call.visit :: call.history)) := by
          rw [hfinished, hpassed]
          simp
        rw [hfinish, hsegment]
        exact hopens.takesNext hpursues hsplit hpast hwithin hanswer hpurpose hlimit

end Reports

/-! ## Whole lookups -/

namespace Resolver

section Ends

variable {σ : Type} (resolver : Resolver) (query : Query) (network : Network σ) (state : σ)
  {past rest : History} {ended : Visit} {answer : Answer}
  (hhistory : ((resolver.lookup query).hold network state).transcript.history =
    past ++ .left ended answer :: rest)

include hhistory

theorem isReportedOnce_of_left : answer.IsReportedOnce := by
  obtain ⟨call, hvisit, hanswer, hcourse, reports, hreports, hmoment⟩ :=
    resolver.exists_moment query network state hhistory (.inr ⟨ended, answer, rfl⟩)
  have hentered : History.underWay [.entered call.visit] = [call.visit] := rfl
  rcases hmoment with ⟨before, inside, rfl, hinside, rfl⟩ | ⟨rfl, heq, rfl⟩
  · exact hcourse.always_isReportedOnce hentered before _ inside hinside ended answer rfl
  · cases heq
    exact hcourse.isReportedOnce

theorem takesNext_of_left {error : ResolutionError} (hanswer : answer = .error error)
    (hpurpose : ended.purpose = .nameserver) (hlimit : error.isLimit = false) :
    past.TakesNext resolver.config ended past.underWay.tail rest.head? := by
  obtain ⟨call, hvisit, hvalue, hcourse, reports, hreports, hmoment⟩ :=
    resolver.exists_moment query network state hhistory (.inr ⟨ended, answer, rfl⟩)
  have hentered : History.underWay [.entered call.visit] = [call.visit] := rfl
  rcases hmoment with ⟨before, inside, rfl, hinside, rfl⟩ | ⟨rfl, heq, rfl⟩
  · have hnext := hcourse.takesNext hentered before _ inside hinside ended error
      (by rw [hanswer]) hpurpose hlimit
    simpa [List.head?_append] using hnext
  · cases heq
    rw [hvisit] at hpurpose
    cases hpurpose

/-- The visit that ends is the innermost one under way, and unless it is for the query of the lookup
it has another one around it. -/
theorem underWay_of_left (hpurpose : ended.purpose ≠ .lookup) :
    ∃ caller outer, past.underWay = ended :: caller :: outer := by
  obtain ⟨horderly, -⟩ := resolver.orderly_lookup query network state
  have hprefix : past ++ [.left ended answer] <+:
      ((resolver.lookup query).hold network state).transcript.history :=
    ⟨rest, by rw [hhistory]; simp⟩
  have hhead : past.underWay.head? = some ended := horderly.permitted past _ hprefix
  have hnested := horderly.nested past ((List.prefix_append _ _).trans hprefix)
  obtain ⟨outer, hunderWay⟩ := List.head?_eq_some_iff.1 hhead
  rw [hunderWay] at hnested
  cases outer with
  | nil => exact absurd (hnested.outermost ended rfl).1 hpurpose
  | cons caller outer => exact ⟨caller, outer, hunderWay⟩

end Ends

/-- **Limits and failed aliases end a lookup.**  When a visit inside a lookup on any network ends
because a limit was reached, nothing more is sent, and the lookup fails in just this way, as all
visits still under way do.  When what an alias stands for cannot be resolved for another reason, the
visit to the alias fails because of it.  That failure has the failure of a server inside, and the
last name.  If no nameserver is being looked up, nothing more is sent, and the lookup fails in this
way.  Otherwise only the innermost lookup of a nameserver does, nothing more is sent until then, and
the next nameserver is looked up. -/
theorem failures_absorb {σ : Type} (resolver : Resolver) (query : Query) (network : Network σ)
    (state : σ) (past rest : History) (visit : Visit) (error : ResolutionError)
    (hhistory : ((resolver.lookup query).hold network state).transcript.history =
      past ++ .left visit (.error error) :: rest) :
    let value := ((resolver.lookup query).hold network state).value.1
    (error.isLimit = true → value = .error error ∧ rest.Unwinds (.error error)) ∧
    (visit.purpose = .aliasTarget → error.isLimit = false →
      ∃ target reason, reason.isLookupWide = false ∧
        (error = .aliasUnresolved target reason ∨ target = visit.query.name ∧ reason = error) ∧
        (∃ caller outer, past.underWay = visit :: caller :: outer ∧ ∃ ending onward : History,
          rest = ending ++ .left caller (.error (.aliasUnresolved target reason)) :: onward ∧
          ending.Unwinds (.error (.aliasUnresolved target reason))) ∧
        (NoNameserver past.underWay →
          value = .error (.aliasUnresolved target reason) ∧
            rest.Unwinds (.error (.aliasUnresolved target reason))) ∧
        ∀ inner nested outer, past.underWay = inner ++ nested :: outer → NoNameserver inner →
          nested.purpose = .nameserver → ∃ ending onward : History,
            rest = ending ++ .left nested (.error (.aliasUnresolved target reason)) :: onward ∧
            ending.Unwinds (.error (.aliasUnresolved target reason)) ∧
            (past ++ .left visit (.error error) :: ending).TakesNext resolver.config nested outer
              onward.head?) := by
  intro value
  constructor
  · intro hlimit
    exact resolver.absorbs query network state hhistory (.limit hlimit)
  · intro hpurpose hlimit
    have honce := resolver.isReportedOnce_of_left query network state hhistory
    obtain ⟨target, reason, hfailure, hreason, hcases⟩ :=
      ResolutionError.exists_forAlias_eq hlimit honce visit.query.name
    obtain ⟨caller, outer, hunderWay⟩ :=
      resolver.underWay_of_left query network state hhistory (by simp [hpurpose])
    have hdecides : ∀ visits, NoNameserver visits →
        (Occurrence.left visit (.error error)).Decides visits
          (.error (.aliasUnresolved target reason)) := by
      intro visits hvisits
      rw [← hfailure]
      exact .failedAlias hvisits hpurpose
    refine ⟨target, reason, hreason, hcases, ⟨caller, outer, hunderWay, ?_⟩, ?_, ?_⟩
    · have halone : NoNameserver [visit] := by simp [NoNameserver, hpurpose]
      obtain ⟨ending, onward, hrest, hending, -⟩ := resolver.confines query network state hhistory
        (show _ = [visit] ++ caller :: outer from hunderWay) (by simp) (hdecides _ halone)
      exact ⟨ending, onward, hrest, hending⟩
    · intro hapart
      exact resolver.absorbs query network state hhistory (hdecides _ hapart)
    · intro inner nested around hinner hapart hnested
      have hsome : inner ≠ [] := by
        rintro rfl
        obtain ⟨rfl, -⟩ := List.cons.inj (hunderWay.symm.trans hinner)
        rw [hpurpose] at hnested
        cases hnested
      obtain ⟨ending, onward, rfl, hending, hended⟩ :=
        resolver.confines query network state hhistory hinner hsome (hdecides _ hapart)
      refine ⟨ending, onward, rfl, hending, ?_⟩
      have hlater : ((resolver.lookup query).hold network state).transcript.history =
          (past ++ .left visit (.error error) :: ending) ++
            .left nested (.error (.aliasUnresolved target reason)) :: onward := by
        rw [hhistory]
        simp
      have hnext := resolver.takesNext_of_left query network state hlater rfl hnested rfl
      rwa [hended] at hnext

/-- A network on which `www.example.com` is an alias for `web.example.net`.  That name has two
nameservers, the first of which is an alias for a name that nobody knows. -/
def aliasedNameserverScript : Script where
  rules := [
    ⟨.v4 ⟨10, 0, 0, 1⟩, some ⟨"www.example.com"⟩, none, [.response true (·.addAnswer
      ⟨⟨"www.example.com"⟩, .cname, internetClass, 60, .cname ⟨"web.example.net"⟩⟩)]⟩,
    ⟨.v4 ⟨10, 0, 0, 1⟩, some ⟨"web.example.net"⟩, none, [.response false fun message =>
      (message.addAuthority
        ⟨⟨"example.net"⟩, .ns, internetClass, 60, .ns ⟨"ns1.example.org"⟩⟩).addAuthority
        ⟨⟨"example.net"⟩, .ns, internetClass, 60, .ns ⟨"ns2.example.org"⟩⟩]⟩,
    ⟨.v4 ⟨10, 0, 0, 1⟩, some ⟨"ns1.example.org"⟩, none, [.response true (·.addAnswer
      ⟨⟨"ns1.example.org"⟩, .cname, internetClass, 60, .cname ⟨"gone.example.org"⟩⟩)]⟩,
    ⟨.v4 ⟨10, 0, 0, 1⟩, some ⟨"ns2.example.org"⟩, none, [.response true (·.addAnswer
      ⟨⟨"ns2.example.org"⟩, .a, internetClass, 60, .a ⟨10, 0, 0, 2⟩⟩)]⟩,
    ⟨.v4 ⟨10, 0, 0, 1⟩, some ⟨"gone.example.org"⟩, none, [.response false id]⟩,
    ⟨.v4 ⟨10, 0, 0, 2⟩, none, none, [.response true (·.addAnswer
      ⟨⟨"web.example.net"⟩, .a, internetClass, 60, .a ⟨192, 0, 2, 1⟩⟩)]⟩]
  nextId := 7

/-- The lookup of the first nameserver fails because of its alias, and the second one is taken. -/
theorem failures_absorb_aliasedNameserver :
    let root : IpAddress := .v4 ⟨10, 0, 0, 1⟩
    let resolver := Resolver.ofConfig { rootServer := root }
    let history := ((resolver.lookup ⟨⟨"www.example.com"⟩, .a⟩).hold Script.network
      aliasedNameserverScript).transcript.history
    let gone : Visit := ⟨.aliasTarget, ⟨⟨"gone.example.org"⟩, .a⟩, root, 3, 0⟩
    let nameserver : Visit := ⟨.nameserver, ⟨⟨"ns1.example.org"⟩, .a⟩, root, 2, 0⟩
    let around : List Visit :=
      [⟨.aliasTarget, ⟨⟨"web.example.net"⟩, .a⟩, root, 1, 0⟩,
        ⟨.lookup, ⟨⟨"www.example.com"⟩, .a⟩, root, 0, 0⟩]
    history = history.take 16 ++ .left gone (.error .noNameservers) :: history.drop 17 ∧
      ∃ ending onward : History,
        history.drop 17 = ending ++
          .left nameserver (.error (.aliasUnresolved gone.query.name .noNameservers)) :: onward ∧
        ending.Unwinds (.error (.aliasUnresolved gone.query.name .noNameservers)) ∧
        History.TakesNext resolver.config
          (history.take 16 ++ .left gone (.error .noNameservers) :: ending) nameserver around
          onward.head? := by
  intro root resolver history gone nameserver around
  have hmoment : history[16]? = some (.left gone (.error .noNameservers)) ∧
      History.underWay (history.take 16) = [gone] ++ nameserver :: around := by
    decide +kernel
  have hhistory := History.eq_take_append_cons_drop hmoment.1
  refine ⟨hhistory, ?_⟩
  obtain ⟨target, reason, -, hcases, -, -, hnested⟩ :=
    (failures_absorb resolver ⟨⟨"www.example.com"⟩, .a⟩ Script.network aliasedNameserverScript _ _
      gone .noNameservers hhistory).2 rfl rfl
  obtain ⟨rfl, rfl⟩ : target = gone.query.name ∧ reason = .noNameservers := by simpa using hcases
  exact hnested [gone] nameserver around hmoment.2 (by simp [NoNameserver, gone]) rfl

end Resolver

end IterativeDns
