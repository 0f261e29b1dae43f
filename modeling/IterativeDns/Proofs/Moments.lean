import IterativeDns.Proofs.Course
import IterativeDns.Proofs.Nesting

/-!
# The moments of a lookup

Many properties of a lookup are about its moments: when something happens while certain visits are
under way, something is known of what follows.  This file says how to prove such a property of a
course from its parts, in the order in which they happen.

* `History.Always` — something holds at every moment of a part of a history, of what happened
  before, of what happens then and of what follows, and `History.Sometimes` — at one of them.
* `Course.underWay` — when a visit ends, the same visits are under way as when it began, and
  `Course.within` — in between, it was under way itself.
* `Call.Throughout` — something holds throughout a call, and `Course.always` — **what holds at each
  moment of the opening of a visit, and throughout its calls, holds at each moment of the visit.**
-/

namespace IterativeDns

deriving instance DecidableEq for Step, Entry, Occurrence

namespace History

/-- At every moment of a part of a history something holds: of the past, of what happens at that
moment, and of the rest of the part. -/
def Always (holds : History → Occurrence → History → Prop) (past recent : History) : Prop :=
  ∀ before occurrence rest, recent = before ++ occurrence :: rest →
    holds (past ++ before) occurrence rest

/-- At some moment of a part of a history something holds. -/
def Sometimes (holds : History → Occurrence → History → Prop) (past recent : History) : Prop :=
  ∃ before occurrence rest, recent = before ++ occurrence :: rest ∧
    holds (past ++ before) occurrence rest

/-- Nothing is sent any more, and all visits that end do so with one answer. -/
def Unwinds (settled : Answer) (recent : History) : Prop :=
  ∀ occurrence ∈ recent, occurrence.isExchange = false ∧
    ∀ visit answer, occurrence = .left visit answer → answer = settled

variable {holds holds' : History → Occurrence → History → Prop} {past recent next : History}

namespace Always

theorem nil : Always holds past [] := by
  intro before occurrence rest h
  simp at h

theorem cons {first : Occurrence} (hfirst : holds past first recent)
    (hrest : Always holds (past ++ [first]) recent) : Always holds past (first :: recent) := by
  intro before occurrence rest h
  cases before with
  | nil =>
    obtain ⟨rfl, rfl⟩ := List.cons.inj h
    rw [List.append_nil]
    exact hfirst
  | cons head before =>
    obtain ⟨rfl, hlater⟩ := List.cons.inj h
    have hholds := hrest before occurrence rest hlater
    rwa [List.append_assoc] at hholds

/-- What happens later is part of what follows. -/
theorem append
    (h : Always (fun before occurrence rest => holds before occurrence (rest ++ next)) past recent)
    (hnext : Always holds (past ++ recent) next) : Always holds past (recent ++ next) := by
  intro before occurrence rest heq
  rcases append_eq_append_cons_iff.1 heq with ⟨between, hrecent, rfl⟩ | ⟨between, rfl, hlater⟩
  · exact h before occurrence between hrecent
  · have hholds := hnext between occurrence rest hlater
    rwa [List.append_assoc] at hholds

/-- The converse: what follows later comes after the past and what happens first. -/
theorem of_append (h : Always holds past (recent ++ next)) :
    Always (fun before occurrence rest => holds before occurrence (rest ++ next)) past recent ∧
      Always holds (past ++ recent) next := by
  constructor
  · intro before occurrence rest heq
    refine h before occurrence (rest ++ next) ?_
    simp [heq]
  · intro before occurrence rest heq
    rw [List.append_assoc]
    refine h (recent ++ before) occurrence rest ?_
    simp [heq]

theorem mono (h : Always holds past recent)
    (himp : ∀ before occurrence rest, holds before occurrence rest →
      holds' before occurrence rest) : Always holds' past recent :=
  fun before occurrence rest heq => himp _ _ _ (h before occurrence rest heq)

theorem and (h : Always holds past recent) (h' : Always holds' past recent) :
    Always (fun before occurrence rest =>
      holds before occurrence rest ∧ holds' before occurrence rest) past recent :=
  fun before occurrence rest heq => ⟨h before occurrence rest heq, h' before occurrence rest heq⟩

end Always

namespace Sometimes

/-- It happens in the first part, and then the other part follows. -/
theorem append_left
    (h : Sometimes (fun before occurrence rest => holds before occurrence (rest ++ next)) past
      recent) : Sometimes holds past (recent ++ next) := by
  obtain ⟨before, occurrence, rest, rfl, hholds⟩ := h
  exact ⟨before, occurrence, rest ++ next, by simp, hholds⟩

/-- It happens in the second part, after the first one. -/
theorem append_right (h : Sometimes holds (past ++ recent) next) :
    Sometimes holds past (recent ++ next) := by
  obtain ⟨before, occurrence, rest, rfl, hholds⟩ := h
  rw [List.append_assoc] at hholds
  exact ⟨recent ++ before, occurrence, rest, by simp, hholds⟩

theorem mono (h : Sometimes holds past recent)
    (himp : ∀ before occurrence rest, holds before occurrence rest →
      holds' before occurrence rest) : Sometimes holds' past recent := by
  obtain ⟨before, occurrence, rest, rfl, hholds⟩ := h
  exact ⟨before, occurrence, rest, rfl, himp _ _ _ hholds⟩

end Sometimes

namespace Unwinds

variable {settled : Answer}

theorem nil : Unwinds settled [] := by
  intro occurrence hmem
  cases hmem

theorem append (h : recent.Unwinds settled) (hnext : next.Unwinds settled) :
    Unwinds settled (recent ++ next) :=
  List.forall_mem_append.2 ⟨h, hnext⟩

/-- One more visit ends. -/
theorem cons_left (h : recent.Unwinds settled) (visit : Visit) :
    Unwinds settled (.left visit settled :: recent) := by
  refine List.forall_mem_cons.2 ⟨⟨rfl, ?_⟩, h⟩
  rintro _ _ ⟨⟩
  rfl

/-- Nothing need happen. -/
theorem of_still (h : ∀ occurrence ∈ recent,
    occurrence.isTurn = false ∧ occurrence.isExchange = false) : Unwinds settled recent := by
  intro occurrence hmem
  refine ⟨(h occurrence hmem).2, ?_⟩
  rintro visit answer rfl
  cases (h _ hmem).1

end Unwinds

/-! ## The visits under way -/

/-- If no visit begins or ends, the same visits stay under way. -/
theorem underWay_append_of_steady
    (hsteady : ∀ occurrence ∈ recent, occurrence.isTurn = false) :
    (past ++ recent).underWay = past.underWay := by
  induction recent generalizing past with
  | nil => rw [List.append_nil]
  | cons first rest ih =>
    obtain ⟨hfirst, hrest⟩ := List.forall_mem_cons.1 hsteady
    have htrack : first.track past.underWay = past.underWay := by
      unfold Occurrence.isTurn at hfirst
      unfold Occurrence.track
      grind
    rw [List.append_cons, ih hrest, underWay_append_singleton, htrack]

theorem underWay_append_entered (past : History) (visit : Visit) :
    (past ++ [Occurrence.entered visit]).underWay = visit :: past.underWay :=
  underWay_append_singleton past _

theorem underWay_append_left (past : History) (visit : Visit) (answer : Answer) :
    (past ++ [Occurrence.left visit answer]).underWay = past.underWay.tail :=
  underWay_append_singleton past _

end History

namespace Visit

variable {config : Config} {visit : Visit} {opening : History}
  {found : Except ResolutionError Verdict}

theorem Asks.steady {result : Except ResolutionError Message}
    (h : visit.Asks config opening result) : ∀ occurrence ∈ opening, occurrence.isTurn = false := by
  cases h with
  | failed hawaits hsent hbranch => exact fun occurrence hmem => (hawaits occurrence hmem).steady
  | answered hawaits hsends hanswer hafter =>
    refine List.forall_mem_append.2 ⟨fun occurrence hmem => (hawaits occurrence hmem).steady, ?_⟩
    exact List.forall_mem_cons.2 ⟨rfl, fun occurrence hmem => (hafter occurrence hmem).1⟩

/-- No visit begins or ends while another one opens. -/
theorem Opens.steady (h : visit.Opens config opening found) :
    ∀ occurrence ∈ opening, occurrence.isTurn = false := by
  cases h with
  | tooDeep hdepth => simp
  | known hrecords => simp
  | knownAlias target => simp
  | failed hasks => exact hasks.steady
  | answered hasks => exact hasks.steady
  | completed target hasks hverdict => exact hasks.steady

end Visit

variable {config : Config} {visit : Visit} {past recent : History} {answer : Answer}
  {outer : List Visit}

/-- After calls the same visits are under way as before, if this is true of each of them. -/
theorem History.underWay_append_calls {calls : List Call}
    (hcalls : ∀ call ∈ calls, ∀ past : History, (past ++ call.span).underWay = past.underWay) :
    (past ++ calls.flatMap Call.span).underWay = past.underWay := by
  induction calls generalizing past with
  | nil => simp
  | cons call calls ih =>
    obtain ⟨hcall, hrest⟩ := List.forall_mem_cons.1 hcalls
    rw [List.flatMap_cons, ← List.append_assoc, ih hrest, hcall]

/-- **When a visit ends, the same visits are under way as when it began.** -/
theorem Course.underWay (h : Course config visit recent answer) (past : History) :
    (past ++ recent).underWay = past.underWay := by
  induction h generalizing past with
  | intro hopens hpursues hcalls ih =>
    rw [← List.append_assoc]
    refine (History.underWay_append_calls fun call hmem before => ?_).trans
      (History.underWay_append_of_steady hopens.steady)
    rw [Call.span, List.append_cons, ← List.append_assoc, History.underWay_append_left,
      ih call hmem, History.underWay_append_entered]
    rfl

theorem Call.IsCourse.underWay {call : Call} (h : call.IsCourse config) (past : History) :
    (past ++ call.span).underWay = past.underWay := by
  rw [Call.span, List.append_cons, ← List.append_assoc, History.underWay_append_left,
    Course.underWay h, History.underWay_append_entered]
  rfl

theorem History.underWay_append_courses {calls : List Call}
    (hcalls : ∀ call ∈ calls, call.IsCourse config) (past : History) :
    (past ++ calls.flatMap Call.span).underWay = past.underWay :=
  History.underWay_append_calls fun call hmem => (hcalls call hmem).underWay

/-- While a visit opens the same visits stay under way. -/
theorem Visit.Opens.underWay_append {before rest : History} {found : Except ResolutionError Verdict}
    (h : visit.Opens config (before ++ rest) found) : (past ++ before).underWay = past.underWay :=
  History.underWay_append_of_steady fun occurrence hmem =>
    h.steady occurrence (List.mem_append_left _ hmem)

/-- Between the calls of a visit it is the innermost one under way. -/
theorem Visit.Opens.underWay_append_calls {opening : History} {made : List Call}
    {found : Except ResolutionError Verdict} (h : visit.Opens config opening found)
    (hpast : past.underWay = visit :: outer) (hmade : ∀ call ∈ made, call.IsCourse config) :
    (past ++ opening ++ made.flatMap Call.span).underWay = visit :: outer := by
  rw [History.underWay_append_courses hmade, History.underWay_append_of_steady h.steady, hpast]

/-- Where something happens that follows upon the beginning of a call: at its beginning, inside it,
at its end or afterwards. -/
theorem Call.span_append_eq {call : Call} {next before rest : History} {occurrence : Occurrence}
    (h : call.span ++ next = before ++ occurrence :: rest) :
    (before = [] ∧ occurrence = .entered call.visit) ∨
      (∃ earlier later, before = .entered call.visit :: earlier ∧
        call.history = earlier ++ occurrence :: later ∧
        rest = later ++ .left call.visit call.answer :: next) ∨
      (before = .entered call.visit :: call.history ∧
        occurrence = .left call.visit call.answer ∧ rest = next) ∨
      occurrence ∈ next := by
  cases before with
  | nil => exact .inl ⟨rfl, (List.cons.inj h).1.symm⟩
  | cons first before =>
    obtain ⟨rfl, htail⟩ := List.cons.inj h
    have hafter : call.history ++ .left call.visit call.answer :: next =
        before ++ occurrence :: rest := (List.append_assoc ..).symm.trans htail
    rcases append_eq_append_cons_iff.1 hafter with ⟨later, hinside, rfl⟩ | ⟨later, rfl, hends⟩
    · exact .inr (.inl ⟨before, later, rfl, hinside, rfl⟩)
    · cases later with
      | nil =>
        obtain ⟨rfl, rfl⟩ := List.cons.inj hends
        exact .inr (.inr (.inl ⟨by rw [List.append_nil], rfl, rfl⟩))
      | cons last later =>
        refine .inr (.inr (.inr ?_))
        rw [show next = later ++ occurrence :: rest from (List.cons.inj hends).2]
        simp

/-! ## From the parts to the whole -/

section Parts

variable {holds : History → Occurrence → History → Prop} {call : Call}

/-- Something holds throughout a call, which begins at some moment under some visits and is followed
by something else. -/
structure Call.Throughout (holds : History → Occurrence → History → Prop) (call : Call)
    (visits : List Visit) (start next : History) : Prop where
  /-- It holds when the call begins. -/
  begins : holds start (.entered call.visit)
    (call.history ++ .left call.visit call.answer :: next)
  /-- It holds while the call goes on. -/
  goesOn : (start ++ [Occurrence.entered call.visit]).underWay = call.visit :: visits →
    History.Always (fun before occurrence rest =>
        holds before occurrence (rest ++ .left call.visit call.answer :: next))
      (start ++ [Occurrence.entered call.visit]) call.history
  /-- It holds when the call ends. -/
  ends : ∀ finish : History, finish = start ++ [Occurrence.entered call.visit] ++ call.history →
    finish.underWay = call.visit :: visits → holds finish (.left call.visit call.answer) next

theorem Call.Throughout.always {visits : List Visit} {start next : History}
    (h : call.Throughout holds visits start next) (hcourse : call.IsCourse config)
    (hstart : start.underWay = visits) :
    History.Always (fun before occurrence rest => holds before occurrence (rest ++ next)) start
      call.span := by
  have hentered : (start ++ [Occurrence.entered call.visit]).underWay = call.visit :: visits := by
    rw [History.underWay_append_entered, hstart]
  have hinside := h.goesOn hentered
  refine .cons (by simpa using h.begins) (.append ?_ (.cons ?_ .nil))
  · simpa using hinside
  · exact h.ends _ rfl (by rw [Course.underWay hcourse, hentered])

/-- What holds at some moment in a call. -/
theorem Call.sometimes_span
    (h : History.Sometimes (fun before occurrence rest =>
        holds before occurrence (rest ++ [Occurrence.left call.visit call.answer]))
      (past ++ [Occurrence.entered call.visit]) call.history) :
    History.Sometimes holds past call.span := by
  have hspan : call.span = [Occurrence.entered call.visit] ++
      (call.history ++ [Occurrence.left call.visit call.answer]) := rfl
  rw [hspan]
  exact .append_right (.append_left h)

/-- **What holds at each moment of the opening of a visit, and throughout its calls, holds at each
moment of the visit.** -/
theorem Course.always {opening : History} {found : Except ResolutionError Verdict}
    {calls : List Call} (hpast : past.underWay = visit :: outer)
    (hopens : visit.Opens config opening found) (hcalls : ∀ call ∈ calls, call.IsCourse config)
    (hopening : ∀ before occurrence rest, opening = before ++ occurrence :: rest →
      (past ++ before).underWay = visit :: outer →
      holds (past ++ before) occurrence (rest ++ calls.flatMap Call.span))
    (hcall : ∀ made call later, calls = made ++ call :: later →
      ∀ start : History, start = past ++ opening ++ made.flatMap Call.span →
        start.underWay = visit :: outer →
        call.Throughout holds (visit :: outer) start (later.flatMap Call.span)) :
    History.Always holds past (opening ++ calls.flatMap Call.span) := by
  refine .append ?_ ?_
  · intro before occurrence rest heq
    refine hopening before occurrence rest heq ?_
    rw [heq] at hopens
    rw [hopens.underWay_append, hpast]
  · -- by induction on the calls that are left, with those that were made put before them
    have hlater : ∀ made left : List Call, calls = made ++ left →
        History.Always holds (past ++ opening ++ made.flatMap Call.span)
          (left.flatMap Call.span) := by
      intro made left hsplit
      induction left generalizing made with
      | nil => exact .nil
      | cons call left ih =>
        have hmade := hopens.underWay_append_calls hpast fun call hmem =>
          hcalls call (hsplit ▸ List.mem_append_left _ hmem)
        have hthroughout := hcall made call left hsplit _ rfl hmade
        refine .append (hthroughout.always (hcalls call (by simp [hsplit])) hmade) ?_
        have hnext := ih (made ++ [call]) (by simp [hsplit])
        rw [List.flatMap_append, List.flatMap_singleton, ← List.append_assoc] at hnext
        exact hnext
    have hwhole := hlater [] calls rfl
    rwa [List.flatMap_nil, List.append_nil] at hwhole

end Parts

/-- Visits that are under way inside a call are inside the visit that makes it. -/
theorem eq_append_singleton_of_append_eq {α : Type} {xs ys zs : List α} {a : α}
    (h : xs ++ zs = ys ++ a :: zs) : xs = ys ++ [a] :=
  List.append_cancel_right (h.trans (List.append_cons ys a zs))

/-- **A visit is under way from its beginning to its end,** with the visits around it. -/
theorem Course.within (h : Course config visit recent answer) {past : History}
    (hpast : past.underWay = visit :: outer) :
    History.Always (fun before _ _ => ∃ inside, before.underWay = inside ++ visit :: outer) past
      recent := by
  induction h generalizing past outer with
  | @intro visit _ _ _ _ hopens hpursues hcalls ih =>
    refine Course.always hpast hopens hcalls ?_ ?_
    · intro before occurrence rest _ hbefore
      exact ⟨[], hbefore⟩
    · intro made call later hsplit start _ hstart
      constructor
      case begins => exact ⟨[], hstart⟩
      case goesOn =>
        intro hentered
        refine (ih call (by simp [hsplit]) hentered).mono ?_
        rintro past' _ _ ⟨inside, hinside⟩
        exact ⟨inside ++ [call.visit], by simp [hinside]⟩
      case ends =>
        intro finish _ hfinish
        exact ⟨[call.visit], hfinish⟩

end IterativeDns
