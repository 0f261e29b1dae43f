import IterativeDns.Proofs.Lifetime
import IterativeDns.Proofs.Silence
import IterativeDns.Resolution.Script

/-!
# What is reported of a lookup

A resolver that is listened to reports each attempt to send a query and each response that it
accepts.  This file tells what can be seen of a lookup from outside as one inquiry after the other,
and says where in it the reports stand.

* `Inquiry` — a query to a server with all that came of it; `Inquiry.course` is how it is seen, and
  `Inquiry.events` what is reported of it.
* `Lookup.Inquired` — up to now all that was seen are inquiries, and whoever listens was told of
  them.  It is the invariant that all parts of a lookup keep.
* `Resolver.lookup_reports` — **the reports of a lookup are those of its inquiries, in their order,
  and one of its failure; and they disturb nothing.**
-/

namespace IterativeDns

/-! ## Being told -/

namespace Tracer

/-- The tracer after events were put into all mailboxes. -/
def told (events : List TraceEvent) (tracer : Tracer) : Tracer :=
  { tracer with mailboxes := tracer.mailboxes.map (·.map (· ++ events)) }

@[simp] theorem told_nil (tracer : Tracer) : tracer.told [] = tracer := by
  cases tracer
  simp [told]

@[simp] theorem told_append (events later : List TraceEvent) (tracer : Tracer) :
    tracer.told (events ++ later) = (tracer.told events).told later := by
  simp [told, Function.comp_def]

@[simp] theorem isHeard_told (events : List TraceEvent) (tracer : Tracer) :
    (tracer.told events).isHeard = tracer.isHeard := by
  simp [told, isHeard, Function.comp_def]

end Tracer

/-! ## What is seen -/

/-- It can be seen from outside: it is no note, or it is reported. -/
def Occurrence.isVisible : Occurrence → Bool
  | .entry (.noted step) => step.report?.isSome
  | _ => true

namespace History

/-- What can be seen from outside: identifiers, datagrams, reports, and time that passes. -/
def visible (past : History) : History := past.filter (·.isVisible)

/-- An event that is reported if anyone is told about events. -/
def report (isHeard : Bool) (event : TraceEvent) : History :=
  if isHeard then [.entry (.noted (.traced event))] else []

/-- Attempts to send a request, the first of them with a number; before each is a report. -/
def attempts (isHeard : Bool) (sent : Nat → TraceEvent) (request : Request) (first : Nat)
    (deliveries : List Delivery) : History :=
  (deliveries.zipIdx first).flatMap fun (delivery, attempt) =>
    report isHeard (sent attempt) ++ [.entry (.exchanged request delivery)]

@[simp] theorem reports_singleton (occurrence : Occurrence) :
    reports [occurrence] = occurrence.report?.toList := by
  cases h : occurrence.report? <;> simp [reports, h]

theorem visible_cons (first : Occurrence) (rest : History) :
    visible (first :: rest) = if first.isVisible then first :: rest.visible else rest.visible :=
  List.filter_cons

@[simp] theorem visible_append (past next : History) :
    (past ++ next).visible = past.visible ++ next.visible :=
  List.filter_append ..

@[simp] theorem visible_report (isHeard : Bool) (event : TraceEvent) :
    (report isHeard event).visible = report isHeard event := by
  cases isHeard <;> rfl

@[simp] theorem reports_report (isHeard : Bool) (event : TraceEvent) :
    (report isHeard event).reports = if isHeard then [event] else [] := by
  cases isHeard <;> rfl

@[simp] theorem reports_visible (past : History) : past.visible.reports = past.reports := by
  unfold reports visible
  rw [List.filterMap_filter]
  refine congrArg (List.filterMap · past) (funext fun occurrence => ?_)
  -- What cannot be seen is a note that is no report.
  rcases occurrence with ⟨_ | _ | step⟩ | _
  case entry.noted => cases h : step.report? <;> simp [Occurrence.isVisible, Occurrence.report?, h]
  all_goals rfl

theorem reports_flatMap {α : Type} (items : List α) (course : α → History) :
    reports (items.flatMap course) = items.flatMap fun item => (course item).reports :=
  List.filterMap_flatMap

section Attempts

variable (isHeard : Bool) (sent : Nat → TraceEvent) (request : Request) (first : Nat)

@[simp] theorem attempts_nil : attempts isHeard sent request first [] = [] := rfl

theorem attempts_cons (delivery : Delivery) (deliveries : List Delivery) :
    attempts isHeard sent request first (delivery :: deliveries) =
      report isHeard (sent first) ++ [.entry (.exchanged request delivery)] ++
        attempts isHeard sent request (first + 1) deliveries := by
  simp [attempts, List.zipIdx_cons]

@[simp] theorem visible_attempts (deliveries : List Delivery) :
    (attempts isHeard sent request first deliveries).visible =
      attempts isHeard sent request first deliveries := by
  induction deliveries generalizing first with
  | nil => rfl
  | cons delivery deliveries ih =>
    rw [attempts_cons, visible_append, visible_append, visible_report, ih]
    rfl

/-- Attempts are reported by their numbers. -/
theorem reports_attempts (deliveries : List Delivery) :
    (attempts isHeard sent request first deliveries).reports =
      if isHeard then (List.range' first deliveries.length).map sent else [] := by
  induction deliveries generalizing first with
  | nil => simp
  | cons delivery deliveries ih =>
    rw [attempts_cons, reports_append, reports_append, reports_report, ih]
    cases isHeard <;> simp [List.range'_succ, reports, Occurrence.report?]

end Attempts

end History

/-! ## Inquiries -/

/-- A query to a server, and all that came of it. -/
structure Inquiry where
  /-- The identifier. -/
  id : UInt16
  /-- The query. -/
  query : Query
  /-- The server. -/
  server : IpAddress
  /-- What came of the attempts that brought no datagram. -/
  missed : List Delivery
  /-- What came of the attempt that did, if there was one. -/
  reply : Option Delivery

namespace Inquiry

variable (config : Config) (inquiry : Inquiry)

/-- What is sent, again and again. -/
def request : Request :=
  config.request inquiry.server (Message.ofQuery inquiry.id inquiry.query).encode

/-- What came of all attempts. -/
def deliveries : List Delivery := inquiry.missed ++ inquiry.reply.toList

/-- The message that answers at last. -/
def answer? : Option Message := inquiry.reply.bind (inquiry.request config).answer?

/-- An inquiry as the settings allow it: attempts are made until a datagram comes back in time, and
given up when there were too many of them. -/
structure Fits : Prop where
  /-- No datagram came back in time. -/
  missed : ∀ delivery ∈ inquiry.missed, ∃ error,
    (delivery.awaited (inquiry.request config)).2 = .failure error
  /-- A datagram came back in time. -/
  reply : ∀ delivery ∈ inquiry.reply, ∃ payload,
    (delivery.awaited (inquiry.request config)).2 = .datagram payload
  /-- There are only so many attempts. -/
  length_le : inquiry.deliveries.length ≤ config.maxRetries + 1
  /-- Only after all of them no more are made. -/
  given_up : inquiry.reply = none → inquiry.deliveries.length = config.maxRetries + 1

/-- How an inquiry is seen: an identifier is drawn, then each attempt is reported and made, and at
last the answer is reported, if there is one. -/
def course (isHeard : Bool) : History :=
  .entry (.drew inquiry.id) ::
    (History.attempts isHeard (.querySent inquiry.id inquiry.query inquiry.server)
        (inquiry.request config) 0 inquiry.deliveries ++
      (inquiry.answer? config).toList.flatMap fun message =>
        History.report isHeard (.response inquiry.server message))

/-- What is reported of an inquiry: its attempts, numbered from zero on, and its answer. -/
def events : List TraceEvent :=
  (List.range inquiry.deliveries.length).map
      (.querySent inquiry.id inquiry.query inquiry.server) ++
    (inquiry.answer? config).toList.map (.response inquiry.server)

theorem reports_course (isHeard : Bool) :
    (inquiry.course config isHeard).reports =
      if isHeard then inquiry.events config else [] := by
  show ((_ ++ _ : History)).reports = _
  rw [History.reports_append, History.reports_attempts, ← List.range_eq_range', events]
  cases inquiry.answer? config <;> cases isHeard <;> simp

end Inquiry

/-! ## A memory that was told of a history -/

/-- Whoever is told was told of everything that was reported, and of nothing else. -/
def Memory.Told (tracer : Tracer) (memory : Memory) (past : History) : Prop :=
  memory.tracer = tracer.told past.reports

namespace Memory.Told

variable {tracer : Tracer} {memory : Memory} {past : History}

theorem isHeard_eq (h : memory.Told tracer past) : memory.tracer.isHeard = tracer.isHeard := by
  rw [h, Tracer.isHeard_told]

/-- Something happens that is no report. -/
theorem unreported (h : memory.Told tracer past) (occurrence : Occurrence)
    (hnone : occurrence.report? = none) : memory.Told tracer (past ++ [occurrence]) := by
  rw [Told, History.reports_append, History.reports_singleton, hnone, Option.toList_none,
    List.append_nil]
  exact h

theorem reported (h : memory.Told tracer past) (event : TraceEvent) :
    (memory.deliver event).Told tracer (past ++ [.entry (.noted (.traced event))]) := by
  rw [Told, History.reports_append, Tracer.told_append, ← h]
  rfl

end Memory.Told

/-! ## One question to one server -/

namespace Lookup

variable {tracer : Tracer} {memory : Memory} {past : History} {config : Config}

theorem ensures_announce_told (event : TraceEvent) (h : memory.Told tracer past) :
    (announce event).Ensures memory past fun _ memory' past' =>
      memory'.Told tracer past' ∧ past' = past ++ History.report tracer.isHeard event := by
  refine Ensures.get_bind ?_
  rw [h.isHeard_eq]
  cases tracer.isHeard with
  | true => exact Ensures.note_bind (Ensures.modify ⟨h.reported event, rfl⟩)
  | false => exact Ensures.pure ⟨h, (List.append_nil _).symm⟩

/-- Attempts are made until a datagram comes back in time, each with its report.  By induction on
the attempts that are left. -/
theorem ensures_attempts (query : Query) (server : IpAddress) (id : UInt16) (payload : Octets)
    (attempt attempts : Nat) (h : memory.Told tracer past) :
    let request := config.request server payload
    (sendUntilReply config query server id payload attempt attempts).Ensures memory past
      fun result memory' past' => memory'.Told tracer past' ∧
        ∃ (missed : List Delivery) (reply : Option Delivery),
          (∀ delivery ∈ missed, ∃ error, (delivery.awaited request).2 = .failure error) ∧
          (match result with
            | none => reply = none ∧ missed.length = attempts
            | some octets => missed.length < attempts ∧
                ∃ delivery, reply = some delivery ∧
                  (delivery.awaited request).2 = .datagram octets) ∧
          past' = past ++ History.attempts tracer.isHeard (.querySent id query server) request
            attempt (missed ++ reply.toList) := by
  intro request
  induction attempts generalizing memory past attempt with
  | zero => exact Ensures.pure ⟨h, [], none, by simp, ⟨rfl, rfl⟩, (List.append_nil _).symm⟩
  | succ attempts ih =>
    refine (ensures_announce_told _ h).bind ?_
    rintro - memory₁ _ ⟨htold, rfl⟩
    refine (ensures_exchange server payload).bind ?_
    rintro _ _ _ ⟨delivery, rfl, rfl, rfl⟩
    have hsent : (memory₁.wait (delivery.awaited request).1).Told tracer
        (past ++ History.report tracer.isHeard (.querySent id query server attempt) ++
          [.entry (.exchanged request delivery)]) := htold.unreported _ rfl
    cases hreply : (delivery.awaited (config.request server payload)).2 with
    | datagram octets =>
      refine Ensures.pure ⟨hsent, [], some delivery, by simp, ⟨by simp, delivery, rfl, hreply⟩, ?_⟩
      simp [History.attempts_cons, request]
    | failure error =>
      refine (ih (attempt + 1) hsent).mono ?_
      rintro result memory' past' ⟨htold', missed, reply, hmissed, hresult, rfl⟩
      refine ⟨htold', delivery :: missed, reply,
        List.forall_mem_cons.2 ⟨⟨error, hreply⟩, hmissed⟩, ?_, ?_⟩
      · cases result with
        | none => exact ⟨hresult.1, by simp [hresult.2]⟩
        | some octets => exact ⟨by simpa using hresult.1, hresult.2⟩
      · simp [History.attempts_cons]

/-- **One question is one inquiry,** and no more can be seen of it. -/
theorem ensures_ask_told (query : Query) (server : IpAddress) (h : memory.Told tracer past) :
    (ask config query server).Ensures memory past fun _ memory' past' =>
      memory'.Told tracer past' ∧ ∃ inquiry : Inquiry, inquiry.Fits config ∧
        past'.visible = past.visible ++ inquiry.course config tracer.isHeard := by
  refine Ensures.drawId_bind fun id => ?_
  refine (ensures_attempts query server id _ 0 _ (h.unreported _ rfl)).bind ?_
  rintro result memory' _ ⟨htold, missed, reply, hmissed, hresult, rfl⟩
  have hdrew (rest : History) : History.visible (.entry (.drew id) :: rest) =
      .entry (.drew id) :: rest.visible := History.visible_cons _ _
  cases result with
  | none =>
    obtain ⟨rfl, hlength⟩ := hresult
    have hfits : Inquiry.Fits config ⟨id, query, server, missed, none⟩ :=
      ⟨hmissed, by simp, by simp [Inquiry.deliveries, hlength],
        by simp [Inquiry.deliveries, hlength]⟩
    refine Ensures.pure ⟨htold, _, hfits, ?_⟩
    simp [Inquiry.course, Inquiry.answer?, Inquiry.request, Inquiry.deliveries, hdrew]
  | some octets =>
    obtain ⟨hlength, delivery, rfl, hreply⟩ := hresult
    have hfits : Inquiry.Fits config ⟨id, query, server, missed, some delivery⟩ :=
      ⟨hmissed, by simpa using ⟨octets, hreply⟩,
        by simpa [Inquiry.deliveries] using Nat.le_of_lt_succ hlength, by simp⟩
    have hanswer := Request.answer?_of_datagram hreply
    rw [Request.id_of_payload rfl] at hanswer
    dsimp only
    cases haccept : Message.accept id octets with
    | error fault =>
      rw [haccept] at hanswer
      refine Ensures.pure ⟨htold, _, hfits, ?_⟩
      simp [Inquiry.course, Inquiry.answer?, Inquiry.request, Inquiry.deliveries, hdrew, hanswer,
        Except.toOption]
    | ok message =>
      rw [haccept] at hanswer
      have hnoted (rest : History) :
          History.visible (.entry (.noted (.accepted query server message)) :: rest) =
            rest.visible := History.visible_cons _ _
      refine Ensures.note_bind ((ensures_announce_told _ (htold.unreported _ rfl)).bind ?_)
      rintro - memory₁ _ ⟨htold', rfl⟩
      refine Ensures.pure ⟨htold', _, hfits, ?_⟩
      simp [Inquiry.course, Inquiry.answer?, Inquiry.request, Inquiry.deliveries, hdrew, hnoted,
        hanswer, Except.toOption]

/-! ## Whole lookups -/

/-- Up to now, all that was seen are inquiries. -/
structure Inquired (config : Config) (tracer : Tracer) (memory : Memory) (past : History) :
    Prop where
  /-- Whoever is told was told of everything that was reported. -/
  told : memory.Told tracer past
  /-- One inquiry came after the other. -/
  inquired : ∃ inquiries : List Inquiry, (∀ inquiry ∈ inquiries, inquiry.Fits config) ∧
    past.visible = inquiries.flatMap (·.course config tracer.isHeard)

theorem Inquired.turned (h : Inquired config tracer memory past) {occurrence : Occurrence}
    (hturn : occurrence.isTurn = true) :
    Inquired config tracer memory (past ++ [occurrence]) := by
  have hunseen : occurrence.report? = none ∧ occurrence.isVisible = false := by
    rcases occurrence with ⟨_ | _ | step⟩ | _
    case entry.noted => cases step <;> first | exact ⟨rfl, rfl⟩ | cases hturn
    all_goals cases hturn
  obtain ⟨inquiries, hfits, hvisible⟩ := h.inquired
  refine ⟨h.told.unreported occurrence hunseen.1, inquiries, hfits, ?_⟩
  rw [History.visible_append, hvisible, History.visible_cons, hunseen.2]
  exact List.append_nil _

theorem keeps_inquired (levels : Nat) (purpose : Purpose) (query : Query) :
    Keeps (Inquired config tracer) (resolve config levels purpose query) := by
  refine (composed_resolve levels purpose query).keeps (fun _ _ _ hturn h => h.turned hturn) ?_
  intro query server memory past h
  obtain ⟨inquiries, hfits, hvisible⟩ := h.inquired
  refine (ensures_ask_told query server h.told).mono ?_
  rintro result memory' past' ⟨htold, inquiry, hfit, hnext⟩
  have hafter : Inquired config tracer memory' past' := by
    refine ⟨htold, inquiries ++ [inquiry], ?_, ?_⟩
    · exact List.forall_mem_append.2 ⟨hfits, by simpa using hfit⟩
    · rw [hnext, hvisible, List.flatMap_append, List.flatMap_singleton]
  cases result with
  | error error => exact hafter
  | ok message => exact ⟨hafter.told, hafter.inquired⟩

end Lookup

/-- What is reported of a lookup at its end. -/
def Query.failure? (query : Query) : Answer → Option TraceEvent
  | .ok _ => none
  | .error reason => some (.failed query reason)

/-- **A lookup is one inquiry after the other,** and in the end its failure is reported. -/
theorem Lookup.ensures_whole_inquired (config : Config) (query : Query) (memory : Memory) :
    (whole config query).Ensures memory [] fun answer memory' past' =>
      memory'.Told memory.tracer past' ∧
      ∃ inquiries : List Inquiry, (∀ inquiry ∈ inquiries, inquiry.Fits config) ∧
        past'.visible = inquiries.flatMap (·.course config memory.tracer.isHeard) ++
          (query.failure? answer).toList.flatMap (History.report memory.tracer.isHeard) := by
  have hbegin : Inquired config memory.tracer memory [] :=
    ⟨(Tracer.told_nil _).symm, [], by simp, rfl⟩
  refine (keeps_inquired _ _ query memory [] hbegin).bind ?_
  rintro answer memory' past' ⟨htold, inquiries, hfits, hvisible⟩
  cases answer with
  | ok records => exact Ensures.pure ⟨htold, inquiries, hfits, by simp [hvisible, Query.failure?]⟩
  | error reason =>
    refine (ensures_announce_told _ htold).bind ?_
    rintro - memory₁ _ ⟨htold', rfl⟩
    exact Ensures.pure ⟨htold', inquiries, hfits, by simp [hvisible, Query.failure?]⟩

/-! ## With and without reports -/

namespace Resolver

variable {σ : Type}

/-- Whether or not anyone listens, a lookup is one inquiry after the other, and whoever listens is
told of everything that is reported. -/
theorem lookup_inquired (resolver : Resolver) (query : Query) (network : Network σ) (state : σ) :
    let held := (resolver.lookup query).hold network state
    let past := held.transcript.history
    let isHeard := resolver.memory.tracer.isHeard
    held.value.2.memory.tracer = resolver.memory.tracer.told past.reports ∧
    ∃ inquiries : List Inquiry, (∀ inquiry ∈ inquiries, inquiry.Fits resolver.config) ∧
      past.visible = inquiries.flatMap (·.course resolver.config isHeard) ++
        (query.failure? held.value.1).toList.flatMap (History.report isHeard) ∧
      past.reports =
        if isHeard then
          inquiries.flatMap (·.events resolver.config) ++ (query.failure? held.value.1).toList
        else [] := by
  obtain ⟨htold, inquiries, hfits, hvisible⟩ := of_ensures
    (Lookup.ensures_whole_inquired resolver.config query resolver.memory) network state
  refine ⟨htold, inquiries, hfits, hvisible, ?_⟩
  rw [← History.reports_visible, ← List.nil_append (Transcript.history _), hvisible,
    History.reports_append]
  cases resolver.memory.tracer.isHeard <;>
    simp [History.reports_flatMap, Inquiry.reports_course]

/-- **The reports of a lookup are faithful and disturb nothing.**  While a resolver is verbose and
someone listens, what is seen of a lookup is one inquiry after the other, with a report before each
attempt and after each answer, and a report of its failure at the very end; whoever listens gets
exactly these reports.  While it is not verbose nothing is reported, and otherwise the same happens
and comes of it. -/
theorem lookup_reports (resolver : Resolver) (query : Query) (network : Network σ) (state : σ) :
    let loud := ((resolver.setVerbose true).lookup query).hold network state
    let quiet := ((resolver.setVerbose false).lookup query).hold network state
    let past := loud.transcript.history
    ((∃ mailbox, some mailbox ∈ resolver.memory.tracer.mailboxes) →
      ∃ inquiries : List Inquiry, (∀ inquiry ∈ inquiries, inquiry.Fits resolver.config) ∧
        past.visible = inquiries.flatMap (·.course resolver.config true) ++
          (query.failure? loud.value.1).toList.flatMap (History.report true) ∧
        past.reports = inquiries.flatMap (·.events resolver.config) ++
          (query.failure? loud.value.1).toList ∧
        loud.value.2.memory.tracer.mailboxes =
          resolver.memory.tracer.mailboxes.map (·.map (· ++ past.reports))) ∧
    quiet.transcript.history.reports = [] ∧
    quiet.value.2.memory.tracer = (resolver.setVerbose false).memory.tracer ∧
    quiet.transcript.history = past.withoutReports ∧
    quiet.value.1 = loud.value.1 ∧
    quiet.value.2.memory.cache = loud.value.2.memory.cache ∧
    quiet.value.2.memory.now = loud.value.2.memory.now ∧
    quiet.network = loud.network := by
  intro loud quiet past
  obtain ⟨htold, inquiries, hfits, hvisible, hreports⟩ :=
    (resolver.setVerbose true).lookup_inquired query network state
  obtain ⟨htold', _, -, -, hnone⟩ := (resolver.setVerbose false).lookup_inquired query network state
  obtain ⟨hanswer, hmemory, hhistory, hnetwork⟩ :=
    lookup_whoever_is_told (resolver.setVerbose true) (resolver.setVerbose false) rfl rfl network
      query state
  have hsilent : quiet.transcript.history.reports = [] := hnone
  refine ⟨?_, hsilent, ?_, ?_, hanswer, ?_, ?_, hnetwork⟩
  · rintro ⟨mailbox, hmailbox⟩
    have hheard : (resolver.setVerbose true).memory.tracer.isHeard = true :=
      List.any_eq_true.2 ⟨_, hmailbox, rfl⟩
    rw [hheard] at hvisible hreports
    exact ⟨inquiries, hfits, hvisible, hreports, congrArg Tracer.mailboxes htold⟩
  · rw [htold', hnone]
    exact Tracer.told_nil _
  · exact (History.withoutReports_of_reports_eq_nil hsilent).symm.trans hhistory
  · exact (Memory.mk.inj hmemory).1
  · exact (Memory.mk.inj hmemory).2.2

/-- A network on which the server at 10.0.0.1 stays silent at first, and then refuses to answer. -/
def hesitantScript : Script where
  rules := [⟨.v4 ⟨10, 0, 0, 1⟩, none, none,
    [⟨0, .silence⟩, ⟨20, .message (.ofHeader (.empty 0 refusal)) 0 true none⟩]⟩]
  nextId := 7
where
  /-- The flags of a response that refuses to answer. -/
  refusal : Flags := (Flags.none.setResponse true).setResponseCode 5

/-- One inquiry takes two attempts and is answered, but the lookup fails. -/
theorem lookup_reports_hesitant :
    let server : IpAddress := .v4 ⟨10, 0, 0, 1⟩
    let resolver := (Resolver.ofConfig { rootServer := server }).subscribe.1
    let query : Query := ⟨⟨"www.example.com"⟩, .a⟩
    let events : List TraceEvent := [.querySent 7 query server 0, .querySent 7 query server 1,
      .response server ((Message.ofHeader (.empty 7 hesitantScript.refusal)).addQuestion
        (.ofQuery query)),
      .failed query (.refused server)]
    let loud := ((resolver.setVerbose true).lookup query).hold Script.network hesitantScript
    (∃ mailbox, some mailbox ∈ resolver.memory.tracer.mailboxes) ∧
      loud.value.2.memory.tracer.mailboxes = [some events] ∧
      ∃ inquiries : List Inquiry, (∀ inquiry ∈ inquiries, inquiry.Fits resolver.config) ∧
        events = inquiries.flatMap (·.events resolver.config) ++
          [.failed query (.refused server)] := by
  intro server resolver query events loud
  have hlistened : some [] ∈ resolver.memory.tracer.mailboxes := by decide
  have hheld : query.failure? loud.value.1 = some (.failed query (.refused server)) ∧
      loud.transcript.history.reports = events := by
    decide +kernel
  obtain ⟨inquiries, hfits, -, hreports, hmailboxes⟩ :=
    (lookup_reports resolver query Script.network hesitantScript).1 ⟨[], hlistened⟩
  rw [hheld.1, hheld.2] at hreports
  rw [hheld.2] at hmailboxes
  exact ⟨⟨[], hlistened⟩, hmailboxes, inquiries, hfits, hreports⟩

end Resolver

end IterativeDns
