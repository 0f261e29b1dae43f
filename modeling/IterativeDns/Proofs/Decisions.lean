import IterativeDns.Proofs.Moments
import IterativeDns.Proofs.Unfolding

/-!
# What decides a lookup

Some things that happen in a visit decide the answer of every visit around it: a limit that is
reached, an alias whose target cannot be found, and a response that says that there are no records.
The last two do so only as far as a nameserver whose address is being looked up.  This file says
that nothing more is sent then, and that all these visits end in the same way.

* `Occurrence.Decides` — what happens decides the answer of visits under way.
* `Course.absorbs` — such an answer is that of the visit around, and `Course.confines` — it is that
  of every visit in between.
* `Resolver.absorbs`, `Resolver.confines` — **so it is in a whole lookup, on any network.**
-/

namespace IterativeDns

/-! ## What happens once for all -/

/-- A response says that there are no records: the name does not exist, or an authority for it has
no answers. -/
def Message.IsNegative (message : Message) : Prop :=
  message.response = .nameError ∨
    message.response = .noError ∧ message.isAuthoritative = true ∧ message.answers = []

instance (message : Message) : Decidable message.IsNegative :=
  inferInstanceAs (Decidable (_ ∨ _))

theorem Message.IsNegative.verdict {message : Message} (h : message.IsNegative) (config : Config)
    (query : Query) : message.verdict config query = .final [] := by
  unfold Message.verdict
  rcases h with hname | ⟨hresponse, hauthoritative, hanswers⟩
  · rw [if_pos hname]
  · simp [hresponse, hauthoritative, Message.answerVerdict, hanswers]

/-- No visit is for the name of a nameserver. -/
def NoNameserver (visits : List Visit) : Prop := ∀ visit ∈ visits, visit.purpose ≠ .nameserver

/-- What happens while visits are under way decides how they end. -/
inductive Occurrence.Decides (visits : List Visit) : Occurrence → Answer → Prop where
  /-- A limit was reached. -/
  | limit {visit : Visit} {error : ResolutionError} (hlimit : error.isLimit = true) :
      Decides visits (.left visit (.error error)) (.error error)
  /-- What an alias stands for could not be resolved. -/
  | failedAlias {visit : Visit} {error : ResolutionError} (hvisits : NoNameserver visits)
      (hpurpose : visit.purpose = .aliasTarget) :
      Decides visits (.left visit (.error error)) (.error (error.forAlias visit.query.name))
  /-- There are no records. -/
  | negative {request : Request} {delivery : Delivery} {message : Message}
      (hvisits : NoNameserver visits) (hanswer : request.answer? delivery = some message)
      (hnegative : message.IsNegative) : Decides visits (.exchanged request delivery) (.ok [])

namespace Occurrence.Decides

variable {visits visits' : List Visit} {occurrence : Occurrence} {settled : Answer}

theorem mono (h : occurrence.Decides visits settled) (hsubset : visits' ⊆ visits) :
    occurrence.Decides visits' settled := by
  cases h with
  | limit hlimit => exact .limit hlimit
  | failedAlias hvisits hpurpose =>
    exact .failedAlias (fun visit hmem => hvisits visit (hsubset hmem)) hpurpose
  | negative hvisits hanswer hnegative =>
    exact .negative (fun visit hmem => hvisits visit (hsubset hmem)) hanswer hnegative

theorem append (h : occurrence.Decides visits settled) (hmore : NoNameserver visits') :
    occurrence.Decides (visits ++ visits') settled := by
  cases h with
  | limit hlimit => exact .limit hlimit
  | failedAlias hvisits hpurpose =>
    exact .failedAlias (List.forall_mem_append.2 ⟨hvisits, hmore⟩) hpurpose
  | negative hvisits hanswer hnegative =>
    exact .negative (List.forall_mem_append.2 ⟨hvisits, hmore⟩) hanswer hnegative

theorem isSettled (h : occurrence.Decides visits settled) : settled.isSettled = true := by
  cases h with
  | limit hlimit => exact ResolutionError.isLookupWide_of_isLimit hlimit
  | failedAlias hvisits hpurpose => exact ResolutionError.isLookupWide_forAlias _ _
  | negative hvisits hanswer hnegative => rfl

/-- Within the lookup of a nameserver only a limit decides. -/
theorem isLimit (h : occurrence.Decides visits settled) {visit : Visit} (hmem : visit ∈ visits)
    (hpurpose : visit.purpose = .nameserver) : settled.isLimit = true := by
  cases h with
  | limit hlimit => exact hlimit
  | failedAlias hvisits hpurpose' => exact absurd hpurpose (hvisits visit hmem)
  | negative hvisits hanswer hnegative => exact absurd hpurpose (hvisits visit hmem)

/-- An alias changes nothing. -/
theorem throughAlias_eq (h : occurrence.Decides visits settled) (query : Query) (target : Name) :
    settled.throughAlias query target = settled := by
  cases settled with
  | ok records =>
    cases h with
    | negative hvisits hanswer hnegative => rfl
  | error error =>
    have hwide : error.isLookupWide = true := h.isSettled
    show Except.error (error.forAlias target) = _
    rw [ResolutionError.forAlias, if_pos hwide]

theorem matters (h : occurrence.Decides visits settled) :
    (∃ request delivery, occurrence = .exchanged request delivery) ∨
      ∃ visit answer, occurrence = .left visit answer := by
  cases h with
  | limit hlimit => exact .inr ⟨_, _, rfl⟩
  | failedAlias hvisits hpurpose => exact .inr ⟨_, _, rfl⟩
  | negative hvisits hanswer hnegative => exact .inl ⟨_, _, rfl⟩

end Occurrence.Decides

namespace Visit

variable {config : Config} {visit : Visit} {opening before rest : History}
  {found : Except ResolutionError Verdict} {request : Request} {delivery : Delivery}
  {message : Message}

/-! ## Answers of servers -/

/-- The server sends a message once, and nothing more is sent then. -/
theorem Asks.of_answer {result : Except ResolutionError Message}
    (h : visit.Asks config opening result)
    (hopening : opening = before ++ .exchanged request delivery :: rest)
    (hanswer : request.answer? delivery = some message) :
    result = .ok message ∧ visit.Sends config request ∧
      ∀ occurrence ∈ rest, occurrence.isTurn = false ∧ occurrence.isExchange = false := by
  have hunanswered : ∀ asked : History,
      (∀ occurrence ∈ asked, visit.Awaits config occurrence) →
      .exchanged request delivery ∈ asked → request.answer? delivery ≠ some message := by
    intro asked hawaits hmem hsome
    have hnone : request.answer? delivery = none := (hawaits _ hmem).unanswered
    rw [hnone] at hsome
    cases hsome
  cases h with
  | failed hawaits hsent hbranch =>
    exact absurd hanswer (hunanswered _ hawaits (by simp [hopening]))
  | @answered earlier later _ _ _ hawaits hsends hanswer' hlater =>
    rcases append_eq_append_cons_iff.1 hopening with ⟨between, rfl, -⟩ | ⟨between, rfl, heq⟩
    · exact absurd hanswer (hunanswered _ hawaits (by simp))
    · cases between with
      | nil =>
        obtain ⟨heq, rfl⟩ := List.cons.inj heq
        cases heq
        rw [hanswer] at hanswer'
        cases hanswer'
        exact ⟨rfl, hsends, hlater⟩
      | cons first between =>
        obtain ⟨-, rfl⟩ := List.cons.inj heq
        cases (hlater (.exchanged request delivery) (by simp)).2

/-- What a visit finds comes of the message that its server sends. -/
theorem Opens.of_answer (h : visit.Opens config opening found)
    (hopening : opening = before ++ .exchanged request delivery :: rest)
    (hanswer : request.answer? delivery = some message) :
    (found = .ok (message.verdict config visit.query) ∨
        message.verdict config visit.query = .unusable ∧
          ∃ target, found = .ok (.aliased target)) ∧
      visit.Sends config request ∧
      ∀ occurrence ∈ rest, occurrence.isTurn = false ∧ occurrence.isExchange = false := by
  cases h with
  | tooDeep hdepth => simp at hopening
  | known hrecords => simp at hopening
  | knownAlias target => simp at hopening
  | failed hasks =>
    obtain ⟨hresult, -⟩ := hasks.of_answer hopening hanswer
    cases hresult
  | answered hasks =>
    obtain ⟨hresult, hsends⟩ := hasks.of_answer hopening hanswer
    cases hresult
    exact ⟨.inl rfl, hsends⟩
  | completed target hasks hverdict =>
    obtain ⟨hresult, hsends⟩ := hasks.of_answer hopening hanswer
    cases hresult
    exact ⟨.inr ⟨hverdict, target, rfl⟩, hsends⟩

/-- Conversely, what a visit finds was sent by its server, unless it is an alias or records that are
known. -/
theorem Opens.exists_answer {verdict : Verdict} (h : visit.Opens config opening (.ok verdict))
    (hunaliased : ∀ target, verdict ≠ .aliased target)
    (hunknown : ∀ records, verdict = .final records → records = []) :
    ∃ before request delivery message after,
      opening = before ++ .exchanged request delivery :: after ∧
      request.answer? delivery = some message ∧ message.verdict config visit.query = verdict ∧
      ∀ occurrence ∈ after, occurrence.isTurn = false ∧ occurrence.isExchange = false := by
  generalize hfound : Except.ok verdict = found at h
  cases h with
  | answered hasks =>
    cases hasks with
    | answered hawaits hsends hanswer hafter =>
      exact ⟨_, _, _, _, _, rfl, hanswer, (Except.ok.inj hfound).symm, hafter⟩
  | known hrecords => exact absurd (hunknown _ (Except.ok.inj hfound)) hrecords
  | knownAlias target => exact absurd (Except.ok.inj hfound) (hunaliased target)
  | completed target hasks hverdict => exact absurd (Except.ok.inj hfound) (hunaliased target)
  | tooDeep hdepth => cases hfound
  | failed hasks => cases hfound

variable {calls made later : List Call} {call : Call} {answer settled : Answer}
  {visits : List Visit} {occurrence : Occurrence}

/-- A call that ends with what was decided inside it decides the visit that makes it. -/
theorem Pursues.of_decides (h : visit.Pursues config found calls answer)
    (hcalls : calls = made ++ call :: later)
    (hdecides : occurrence.Decides visits settled) (hmem : call.visit ∈ visits)
    (hanswer : call.answer = settled) : answer = settled ∧ later = [] := by
  rcases h.of_call hcalls with ⟨server, hvisit, hlast⟩ | ⟨name, hvisit, hlast⟩ |
    ⟨target, hvisit, hlater, hthrough⟩
  · obtain ⟨hlater, hsame⟩ := hlast (hanswer ▸ hdecides.isSettled)
    exact ⟨hsame.trans hanswer, hlater⟩
  · have hpurpose : call.visit.purpose = .nameserver := by rw [hvisit]; rfl
    obtain ⟨hlater, hsame⟩ := hlast (hanswer ▸ hdecides.isLimit hmem hpurpose)
    exact ⟨hsame.trans hanswer, hlater⟩
  · rw [hanswer, hdecides.throughAlias_eq] at hthrough
    exact ⟨hthrough, hlater⟩

/-- So does a call whose own end decides. -/
theorem Pursues.of_decides_left (h : visit.Pursues config found calls answer)
    (hcalls : calls = made ++ call :: later)
    (hdecides : (Occurrence.left call.visit call.answer).Decides [call.visit] settled) :
    answer = settled ∧ later = [] := by
  by_cases hsame : call.answer = settled
  · exact h.of_decides hcalls hdecides List.mem_cons_self hsame
  · cases hanswer : call.answer with
    | ok records =>
      rw [hanswer] at hdecides
      cases hdecides
    | error error =>
      rw [hanswer] at hdecides hsame
      cases hdecides with
      | limit hlimit => exact absurd rfl hsame
      | failedAlias hvisits hpurpose =>
        rcases h.of_call hcalls with ⟨server, hvisit, -⟩ | ⟨name, hvisit, -⟩ |
          ⟨target, hvisit, hlater, hthrough⟩
        · rw [hvisit] at hpurpose
          cases hpurpose
        · rw [hvisit] at hpurpose
          cases hpurpose
        · rw [hanswer] at hthrough
          rw [hvisit]
          exact ⟨hthrough, hlater⟩

end Visit

/-! ## Deciding the visits around -/

section Courses

variable {config : Config} {visit : Visit} {past recent : History} {answer : Answer}
  {outer : List Visit}

/-- **What decides the visits inside a visit decides that visit,** and nothing more is sent in
it. -/
theorem Course.absorbs (h : Course config visit recent answer)
    (hpast : past.underWay = visit :: outer) :
    History.Always (fun before occurrence rest => ∀ inner settled,
      before.underWay = inner ++ visit :: outer → occurrence.Decides inner settled →
      answer = settled ∧ rest.Unwinds settled) past recent := by
  induction h generalizing past outer with
  | @intro visit opening found calls answer hopens hpursues hcalls ih =>
    refine Course.always hpast hopens hcalls ?_ ?_
    · intro before occurrence rest hopening _ inner settled _ hdecides
      have hsteady := hopens.steady occurrence (by simp [hopening])
      cases hdecides with
      | limit hlimit => cases hsteady
      | failedAlias hvisits hpurpose => cases hsteady
      | negative hvisits hanswer hnegative =>
        obtain ⟨hfound, -, hrest⟩ := hopens.of_answer hopening hanswer
        rw [hnegative.verdict] at hfound
        obtain rfl : found = .ok (.final []) := by simpa using hfound
        cases hpursues
        refine ⟨rfl, History.Unwinds.of_still ?_⟩
        simpa using hrest
    · intro made call later hsplit start _ _
      have hmem : call ∈ calls := by simp [hsplit]
      constructor
      case begins =>
        intro inner settled _ hdecides
        cases hdecides
      case goesOn =>
        intro hentered
        refine ((ih call hmem hentered).and ((hcalls call hmem).within hentered)).mono ?_
        rintro before occurrence rest ⟨hinside, between, hbetween⟩ inner settled hinner hdecides
        have hsame : inner = between ++ [call.visit] :=
          eq_append_singleton_of_append_eq (hinner.symm.trans hbetween)
        have hbelow := hdecides.mono (hsame ▸ List.subset_append_left between [call.visit])
        obtain ⟨hcall, hrest⟩ := hinside between settled hbetween hbelow
        obtain ⟨hanswer, rfl⟩ := hpursues.of_decides hsplit hdecides (by simp [hsame]) hcall
        rw [hcall]
        exact ⟨hanswer, hrest.append (History.Unwinds.nil.cons_left call.visit)⟩
      case ends =>
        intro finish _ hfinish inner settled hinner hdecides
        have hsame : inner = [call.visit] :=
          List.append_cancel_right (hinner.symm.trans hfinish)
        obtain ⟨hanswer, rfl⟩ := hpursues.of_decides_left hsplit (hsame ▸ hdecides)
        exact ⟨hanswer, History.Unwinds.nil⟩

/-- What decides some visits decides those around them that are inside some others: they end one
after the other, and nothing more is sent until they have. -/
def History.Confines (visits : List Visit) (before : History) (occurrence : Occurrence)
    (rest : History) : Prop :=
  ∀ inner ended between settled, inner ≠ [] →
    before.underWay = inner ++ ended :: (between ++ visits) → occurrence.Decides inner settled →
    ∃ ending onward : History,
      rest = ending ++ .left ended settled :: onward ∧ ending.Unwinds settled ∧
      (before ++ occurrence :: ending).underWay = ended :: (between ++ visits)

/-- With one more visit under way at most, there is none that is inside another one. -/
theorem History.confines_of_length_le {visits : List Visit} {before rest : History}
    {occurrence : Occurrence} (h : before.underWay.length ≤ visits.length + 1) :
    History.Confines visits before occurrence rest := by
  intro inner ended between settled hsome hinner _
  have hpos := List.length_pos_of_ne_nil hsome
  rw [hinner] at h
  simp at h
  omega

/-- Seen from outside, a call is one more visit that is decided. -/
theorem Call.IsCourse.confines_around {call : Call} (hcall : call.IsCourse config)
    {visits : List Visit} {start : History}
    (hentered : (start ++ [Occurrence.entered call.visit]).underWay = call.visit :: visits)
    (hinside : History.Always (History.Confines (call.visit :: visits))
      (start ++ [Occurrence.entered call.visit]) call.history) (next : History) :
    History.Always (fun before occurrence rest => History.Confines visits before occurrence
        (rest ++ .left call.visit call.answer :: next))
      (start ++ [Occurrence.entered call.visit]) call.history := by
  intro before occurrence rest hhistory inner ended between settled hsome hinner hdecides
  obtain ⟨inside, hwithin⟩ := Course.within hcall hentered before occurrence rest hhistory
  rcases List.eq_nil_or_concat between with rfl | ⟨between, last, rfl⟩
  · -- it is this call that ends
    obtain ⟨rfl, heq⟩ := List.append_inj' (hinner.symm.trans hwithin) rfl
    obtain ⟨rfl, -⟩ := List.cons.inj heq
    obtain ⟨hanswer, hrest⟩ := Course.absorbs hcall hentered before occurrence rest hhistory _
      settled hwithin hdecides
    refine ⟨rest, next, by rw [hanswer], hrest, ?_⟩
    rw [List.append_assoc, ← hhistory, Course.underWay hcall]
    exact hentered
  · -- it is a visit inside this call
    have hsuffix : inner ++ ended :: between ++ last :: visits =
        inside ++ call.visit :: visits := by
      rw [← hwithin, hinner]
      simp
    obtain rfl : last = call.visit := by
      obtain ⟨-, heq⟩ := List.append_inj' hsuffix rfl
      exact (List.cons.inj heq).1
    have hbetween : between.concat call.visit ++ visits = between ++ call.visit :: visits := by
      simp
    rw [hbetween] at hinner ⊢
    obtain ⟨ending, onward, rfl, hending⟩ :=
      hinside before occurrence rest hhistory inner ended between settled hsome hinner hdecides
    refine ⟨ending, onward ++ .left call.visit call.answer :: next, ?_, hending⟩
    simp

/-- **What decides the visits inside a visit decides each of them.** -/
theorem Course.confines (h : Course config visit recent answer)
    (hpast : past.underWay = visit :: outer) :
    History.Always (History.Confines (visit :: outer)) past recent := by
  induction h generalizing past outer with
  | @intro visit opening found calls answer hopens hpursues hcalls ih =>
    refine Course.always hpast hopens hcalls ?_ ?_
    · intro before occurrence rest _ hbefore
      exact History.confines_of_length_le (by simp [hbefore])
    · intro made call later hsplit start _ hstart
      have hmem : call ∈ calls := by simp [hsplit]
      constructor
      case begins => exact History.confines_of_length_le (by simp [hstart])
      case goesOn =>
        intro hentered
        exact Call.IsCourse.confines_around (hcalls call hmem) hentered (ih call hmem hentered) _
      case ends =>
        intro finish _ hfinish
        exact History.confines_of_length_le (by simp [hfinish])

end Courses

/-! ## Whole lookups -/

namespace Resolver

section Lookups

variable {σ : Type} (resolver : Resolver) (query : Query) (network : Network σ) (state : σ)
  {past rest : History} {occurrence : Occurrence} {ended : Visit} {outer inner : List Visit}
  {settled : Answer}
  (hhistory : ((resolver.lookup query).hold network state).transcript.history =
    past ++ occurrence :: rest)

include hhistory

/-- When something is sent or a visit ends, this happens in the visit for the query of the lookup,
or that visit ends itself. -/
theorem exists_moment (hmatters : (∃ request delivery, occurrence = .exchanged request delivery) ∨
      ∃ visit answer, occurrence = .left visit answer) :
    ∃ call : Call, call.visit = resolver.config.firstVisit query ∧
      call.answer = ((resolver.lookup query).hold network state).value.1 ∧
      call.IsCourse resolver.config ∧ ∃ reports : History,
        (∀ occurrence ∈ reports, occurrence.isTurn = false ∧ occurrence.isExchange = false) ∧
        ((∃ before inside, past = .entered call.visit :: before ∧
            call.history = before ++ occurrence :: inside ∧
            rest = inside ++ .left call.visit call.answer :: reports) ∨
          (past = .entered call.visit :: call.history ∧
            occurrence = .left call.visit call.answer ∧ rest = reports)) := by
  obtain ⟨call, hvisit, hanswer, hcourse, reports, hwhole, hreports⟩ :=
    resolver.exists_course query network state
  refine ⟨call, hvisit, hanswer, hcourse, reports, hreports, ?_⟩
  rcases Call.span_append_eq (hwhole.symm.trans hhistory) with
    ⟨-, rfl⟩ | hinside | hleft | hmem
  · rcases hmatters with ⟨request, delivery, heq⟩ | ⟨visit, answer, heq⟩
    · cases heq
    · cases heq
  · exact .inl hinside
  · exact .inr hleft
  · obtain ⟨hsteady, hstill⟩ := hreports occurrence hmem
    rcases hmatters with ⟨request, delivery, rfl⟩ | ⟨visit, answer, rfl⟩
    · cases hstill
    · cases hsteady

/-- All visits that are under way then are inside the visit for the query of the lookup. -/
theorem exists_inside (hmatters : (∃ request delivery, occurrence = .exchanged request delivery) ∨
      ∃ visit answer, occurrence = .left visit answer) :
    ∃ inside, past.underWay = inside ++ [resolver.config.firstVisit query] := by
  obtain ⟨call, hvisit, hanswer, hcourse, reports, hreports, hmoment⟩ :=
    resolver.exists_moment query network state hhistory hmatters
  rw [← hvisit]
  have hentered : History.underWay [.entered call.visit] = [call.visit] := rfl
  rcases hmoment with ⟨before, inside, rfl, hinside, rfl⟩ | ⟨rfl, rfl, rfl⟩
  · exact hcourse.within hentered before occurrence inside hinside
  · exact ⟨[], Course.underWay hcourse [.entered call.visit]⟩

/-- **What decides the visits under way decides the lookup,** and nothing more is sent. -/
theorem absorbs (hdecides : occurrence.Decides past.underWay settled) :
    ((resolver.lookup query).hold network state).value.1 = settled ∧
      rest.Unwinds settled := by
  obtain ⟨call, hvisit, hanswer, hcourse, reports, hreports, hmoment⟩ :=
    resolver.exists_moment query network state hhistory hdecides.matters
  rw [← hanswer]
  have hentered : History.underWay [.entered call.visit] = [call.visit] := rfl
  rcases hmoment with ⟨before, inside, rfl, hinside, rfl⟩ | ⟨rfl, rfl, rfl⟩
  · obtain ⟨between, hbetween⟩ := hcourse.within hentered before occurrence inside hinside
    have hbelow : occurrence.Decides between settled :=
      hdecides.mono (hbetween ▸ List.subset_append_left between [call.visit])
    obtain ⟨hsettled, hrest⟩ := hcourse.absorbs hentered before occurrence inside hinside between
      settled hbetween hbelow
    rw [hsettled]
    exact ⟨rfl, hrest.append (.cons_left (.of_still hreports) call.visit)⟩
  · cases hfailure : call.answer with
    | ok records =>
      rw [hfailure] at hdecides
      cases hdecides
    | error error =>
      rw [hfailure] at hdecides
      cases hdecides with
      | limit hlimit => exact ⟨rfl, .of_still hreports⟩
      | failedAlias hvisits hpurpose =>
        rw [hvisit] at hpurpose
        cases hpurpose

/-- **What decides some visits under way decides the visit around them,** and nothing more is sent
until it has ended. -/
theorem confines (hinner : past.underWay = inner ++ ended :: outer) (hsome : inner ≠ [])
    (hdecides : occurrence.Decides inner settled) :
    ∃ ending onward : History,
      rest = ending ++ .left ended settled :: onward ∧ ending.Unwinds settled ∧
      (past ++ occurrence :: ending).underWay = ended :: outer := by
  obtain ⟨call, hvisit, hanswer, hcourse, reports, hreports, hmoment⟩ :=
    resolver.exists_moment query network state hhistory hdecides.matters
  have hentered : History.underWay ([] ++ [.entered call.visit]) = call.visit :: [] := rfl
  have hconfines : History.Confines [] past occurrence rest := by
    rcases hmoment with ⟨before, inside, rfl, hinside, rfl⟩ | ⟨rfl, rfl, rfl⟩
    · exact hcourse.confines_around hentered (hcourse.confines hentered) reports before occurrence
        inside hinside
    · have hlast : History.underWay (.entered call.visit :: call.history) = [call.visit] :=
        Course.underWay hcourse [.entered call.visit]
      exact History.confines_of_length_le (by simp [hlast])
  rw [← List.append_nil outer] at hinner ⊢
  exact hconfines inner ended outer settled hsome hinner hdecides

end Lookups

end Resolver

end IterativeDns
