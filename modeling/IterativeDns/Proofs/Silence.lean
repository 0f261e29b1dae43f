import IterativeDns.Proofs.Composition

/-!
# Lookups without their reports

Whoever is told about a lookup does not disturb it.  This file leaves the reports out of a dialogue
and forgets who would have been told, and shows that a lookup with reports differs from one without
them in nothing else.

* `History.reports`, `History.withoutReports` — the reports of a history, and all the rest of it.
* `Dialogue.withoutReports` — a dialogue that makes no reports.  `hold_withoutReports` says that it
  goes on as before, with any network.
* `Lookup.Undisturbed` — a part of a lookup is the same without its reports, and
  `Lookup.undisturbed_whole` — **every lookup is.**
* `Resolver.lookup_whoever_is_told` — resolvers that differ in whom they tell do the same.
-/

namespace IterativeDns

/-! ## Reports -/

/-- The event that a step reports. -/
def Step.report? : Step → Option TraceEvent
  | .traced event => some event
  | _ => none

/-- The event that is reported. -/
def Occurrence.report? : Occurrence → Option TraceEvent
  | .entry (.noted step) => step.report?
  | _ => none

namespace History

/-- The events that were reported, the oldest first. -/
def reports (past : History) : List TraceEvent := past.filterMap Occurrence.report?

/-- All that happened but for the reports. -/
def withoutReports (past : History) : History := past.filter (·.report?.isNone)

@[simp] theorem reports_nil : reports [] = [] := rfl

@[simp] theorem reports_append (past next : History) :
    (past ++ next).reports = past.reports ++ next.reports :=
  List.filterMap_append

theorem withoutReports_cons (first : Occurrence) (rest : History) :
    withoutReports (first :: rest) =
      if first.report?.isNone then first :: rest.withoutReports else rest.withoutReports :=
  List.filter_cons

/-- Where nothing was reported, there is nothing to leave out. -/
theorem withoutReports_of_reports_eq_nil {past : History} (h : past.reports = []) :
    past.withoutReports = past := by
  refine List.filter_eq_self.2 fun occurrence hmem => ?_
  rw [List.filterMap_eq_nil_iff.1 h occurrence hmem]
  rfl

end History

/-! ## Dialogues without reports -/

namespace Dialogue

variable {α β σ : Type}

/-- The dialogue without its reports. -/
def withoutReports : Dialogue α → Dialogue α
  | done value => done value
  | drawId next => drawId fun id => (next id).withoutReports
  | exchange request next => exchange request fun delivery => (next delivery).withoutReports
  | note step next =>
    if step.report?.isNone then note step next.withoutReports else next.withoutReports

theorem withoutReports_bind (first : Dialogue α) (rest : α → Dialogue β) :
    (first.bind rest).withoutReports =
      first.withoutReports.bind fun value => (rest value).withoutReports := by
  induction first with
  | done value => rfl
  | drawId next ih => exact congrArg drawId (funext ih)
  | exchange request next ih => exact congrArg (exchange request) (funext ih)
  | note step next ih =>
    simp only [bind, withoutReports, ih]
    split <;> rfl

/-- A dialogue without its reports is held as before, with the same identifiers and replies. -/
theorem hold_withoutReports (network : Network σ) (dialogue : Dialogue α) (state : σ) :
    let held := dialogue.hold network state
    let silent := dialogue.withoutReports.hold network state
    silent.value = held.value ∧
      silent.transcript.history = held.transcript.history.withoutReports ∧
      silent.network = held.network := by
  induction dialogue generalizing state with
  | done value => exact ⟨rfl, rfl, rfl⟩
  | drawId next ih =>
    obtain ⟨hvalue, hhistory, hnetwork⟩ := ih (network.drawId state).1 (network.drawId state).2
    refine ⟨hvalue, ?_, hnetwork⟩
    exact congrArg (List.cons (Occurrence.entry (.drew (network.drawId state).1))) hhistory
  | exchange request next ih =>
    let came := network.deliver state request
    obtain ⟨hvalue, hhistory, hnetwork⟩ := ih came.1 came.2
    refine ⟨hvalue, ?_, hnetwork⟩
    exact congrArg (List.cons (Occurrence.entry (.exchanged request came.1))) hhistory
  | note step next ih =>
    obtain ⟨hvalue, hhistory, hnetwork⟩ := ih state
    have hnoted : ((note step next).hold network state).transcript.history.withoutReports =
        if step.report?.isNone then
          .entry (.noted step) :: (next.hold network state).transcript.history.withoutReports
        else (next.hold network state).transcript.history.withoutReports :=
      History.withoutReports_cons _ _
    dsimp only [withoutReports]
    rw [hnoted]
    split
    · refine ⟨hvalue, ?_, hnetwork⟩
      exact congrArg (List.cons (Occurrence.entry (.noted step))) hhistory
    · exact ⟨hvalue, hhistory, hnetwork⟩

end Dialogue

/-! ## Lookups without reports -/

/-- The memory of someone who tells nobody. -/
def Memory.unheard (memory : Memory) : Memory := { memory with tracer := {} }

namespace Lookup

variable {α β : Type}

/-- What happens without the reports, if nobody is told in the end, is what happens if nobody is
told from the beginning. -/
def Undisturbed (program : Lookup α) : Prop :=
  ∀ memory : Memory, ((program memory).withoutReports.bind fun outcome =>
    .done (outcome.1, outcome.2.unheard)) = program memory.unheard

namespace Undisturbed

theorem pure (value : α) : Undisturbed (Pure.pure value : Lookup α) := fun _ => rfl

theorem bind {program : Lookup α} {rest : α → Lookup β} (h : Undisturbed program)
    (hrest : ∀ value, Undisturbed (rest value)) : Undisturbed (program >>= rest) := by
  intro memory
  show ((program memory).bind fun outcome => rest outcome.1 outcome.2).withoutReports.bind _ =
    (program memory.unheard).bind fun outcome => rest outcome.1 outcome.2
  rw [← h memory, Dialogue.withoutReports_bind, Dialogue.bind_assoc, Dialogue.bind_assoc]
  exact congrArg _ (funext fun outcome => hrest outcome.1 outcome.2)

/-- What is read from the memory does not depend on who is told. -/
theorem reads {rest : Memory → Lookup α}
    (hsame : ∀ memory tracer, rest { memory with tracer } = rest memory)
    (hrest : ∀ memory, Undisturbed (rest memory)) :
    Undisturbed (MonadState.get >>= rest) := by
  intro memory
  show _ = rest { memory with tracer := {} } memory.unheard
  rw [hsame]
  exact hrest memory memory

theorem modify {change : Memory → Memory}
    (h : ∀ memory, (change memory).unheard = change memory.unheard) :
    Undisturbed (MonadState.modifyGet fun memory => (⟨⟩, change memory) : Lookup PUnit) :=
  fun memory => congrArg (fun changed => Dialogue.done (PUnit.unit, changed)) (h memory)

theorem note {step : Step} (h : step.report? = none) : Undisturbed (note step) := by
  intro memory
  show (Dialogue.withoutReports (.note step (.done ((), memory)))).bind _ = _
  rw [Dialogue.withoutReports, if_pos (by rw [h]; rfl)]
  rfl

/-- A report is left out, and nothing else comes of it. -/
theorem announce (event : TraceEvent) : Undisturbed (announce event) := by
  intro memory
  show (Dialogue.withoutReports ((if memory.tracer.isHeard = true then _ else _ : Lookup Unit)
    memory)).bind _ = _
  split <;> rfl

theorem exchange (config : Config) (server : IpAddress) (payload : Octets) :
    Undisturbed (exchange config server payload) := fun _ => rfl

/-- By induction on the attempts that are left. -/
theorem sendUntilReply (config : Config) (query : Query) (server : IpAddress) (id : UInt16)
    (payload : Octets) (attempt attempts : Nat) :
    Undisturbed (sendUntilReply config query server id payload attempt attempts) := by
  induction attempts generalizing attempt with
  | zero => exact pure none
  | succ attempts ih =>
    refine (announce _).bind fun _ => (exchange config server payload).bind fun reply => ?_
    cases reply with
    | datagram octets => exact pure _
    | failure error => exact ih _

theorem ask (config : Config) (query : Query) (server : IpAddress) :
    Undisturbed (ask config query server) := by
  have hdraw : Undisturbed drawId := fun _ => rfl
  refine hdraw.bind fun id => bind (sendUntilReply _ _ _ _ _ _ _) fun result => ?_
  cases result with
  | none => exact pure _
  | some octets =>
    dsimp only
    cases Message.accept id octets with
    | error fault => exact pure _
    | ok message => exact (note rfl).bind fun _ => (announce _).bind fun _ => pure _

end Undisturbed

theorem Composed.undisturbed {config : Config} {program : Lookup Answer}
    (h : Composed config program) : Undisturbed program := by
  induction h with
  | answer answer => exact .pure answer
  | andThen hprogram hrest ih ihrest => exact ih.bind ihrest
  | reads hsame hrest ih => exact .reads hsame ih
  | asks query server hrest ih =>
    refine (Undisturbed.ask config query server).bind fun result => ?_
    cases result with
    | error error => exact .pure _
    | ok message =>
      have hlearn : Undisturbed (modify (·.learn message)) := .modify fun _ => rfl
      exact hlearn.bind fun _ => ih message
  | visits visit hbody ih =>
    exact (Undisturbed.note rfl).bind fun _ => ih.bind fun _ =>
      (Undisturbed.note rfl).bind fun _ => .pure _

/-- **Reports do not disturb a lookup:** without them it is what it is when nobody is told. -/
theorem undisturbed_whole (config : Config) (query : Query) :
    Undisturbed (whole config query) := by
  refine (composed_resolve _ _ _).undisturbed.bind fun answer => ?_
  cases answer with
  | ok records => exact .pure _
  | error reason => exact (Undisturbed.announce _).bind fun _ => .pure _

/-! ## Held with a network -/

/-- The same network, with and without someone who is told. -/
theorem Undisturbed.hold {program : Lookup α} (h : Undisturbed program) {σ : Type}
    (network : Network σ) (memory : Memory) (state : σ) :
    let held := (program memory).hold network state
    let unheard := (program memory.unheard).hold network state
    unheard.value = (held.value.1, held.value.2.unheard) ∧
      unheard.transcript.history = held.transcript.history.withoutReports ∧
      unheard.network = held.network := by
  obtain ⟨hvalue, hhistory, hnetwork⟩ :=
    Dialogue.hold_withoutReports network (program memory) state
  dsimp only
  rw [← h memory, Dialogue.hold_bind]
  refine ⟨?_, ?_, hnetwork⟩
  · show (Prod.fst _, Memory.unheard (Prod.snd _)) = _
    rw [hvalue]
  · show Transcript.history (_ ++ []) = _
    rw [List.append_nil, hhistory]

end Lookup

/-- **Who is told makes no difference.**  Resolvers that differ in nothing but whom they tell give
the same answer, send the same datagrams under the same identifiers, learn the same records and
leave the network in the same state. -/
theorem Resolver.lookup_whoever_is_told (resolver other : Resolver)
    (hconfig : other.config = resolver.config)
    (hmemory : other.memory.unheard = resolver.memory.unheard) {σ : Type} (network : Network σ)
    (query : Query) (state : σ) :
    let held := (resolver.lookup query).hold network state
    let heldOther := (other.lookup query).hold network state
    heldOther.value.1 = held.value.1 ∧
      heldOther.value.2.memory.unheard = held.value.2.memory.unheard ∧
      heldOther.transcript.history.withoutReports = held.transcript.history.withoutReports ∧
      heldOther.network = held.network := by
  have hwhole := Lookup.undisturbed_whole resolver.config query
  obtain ⟨hvalue, hhistory, hnetwork⟩ := hwhole.hold network resolver.memory state
  obtain ⟨hvalue', hhistory', hnetwork'⟩ := hwhole.hold network other.memory state
  rw [hmemory] at hvalue' hhistory' hnetwork'
  obtain ⟨hanswer, hunheard⟩ := Prod.ext_iff.1 (hvalue'.symm.trans hvalue)
  dsimp only [lookup, StateT.run]
  rw [hconfig]
  simp only [Dialogue.bind_eq, Dialogue.hold_bind, Dialogue.pure_eq, Dialogue.hold, List.append_nil]
  exact ⟨hanswer, hunheard, hhistory'.symm.trans hhistory, hnetwork'.symm.trans hnetwork⟩

end IterativeDns
