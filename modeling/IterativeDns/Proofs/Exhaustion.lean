import IterativeDns.Proofs.EmptyAnswers

/-!
# Referrals that lead nowhere

A lookup that fails because of its servers has tried all of them.  This file says what that means
for the referrals that it received: nothing that they name is passed over because something else
failed before.

* `Message.IsReferral` — a response refers to other servers.
* `Visit.IsAsking` — a visit asks its server its query, and `Course.asked` — every visit
  does so that leaves the query to other servers.
* `History.Exhausts` — all that a referral names is tried, and `Course.exhausts` — this is so for
  each referral of a visit that leaves its query to other servers.
* `Resolver.referrals_exhausted` — **before a lookup fails it exhausts every referral.**
-/

namespace IterativeDns

/-! ## Referrals -/

/-- A response refers to other servers: it is not from an authority and has no answers. -/
def Message.IsReferral (message : Message) : Prop :=
  message.response = .noError ∧ message.isAuthoritative = false ∧ message.answers = []

instance (message : Message) : Decidable message.IsReferral :=
  inferInstanceAs (Decidable (_ ∧ _ ∧ _))

/-- The data of a record with an address is that address. -/
theorem Record.exists_data_eq_a {record : Record} (hfits : record.DataFits)
    (htype : record.type = .a) : ∃ address, record.data = .a address := by
  unfold DataFits at hfits
  rw [htype] at hfits
  cases hdata : record.data with
  | a address => exact ⟨address, rfl⟩
  | _ => simp [hdata, RecordData.type?, RecordType.dataType?] at hfits

/-- The data of a record with a nameserver is its name. -/
theorem Record.exists_data_eq_ns {record : Record} (hfits : record.DataFits)
    (htype : record.type = .ns) : ∃ name, record.data = .ns name := by
  unfold DataFits at hfits
  rw [htype] at hfits
  cases hdata : record.data with
  | ns name => exact ⟨name, rfl⟩
  | _ => simp [hdata, RecordData.type?, RecordType.dataType?] at hfits

/-- The records of a message that answers a request have the data that their types call for. -/
theorem Request.dataFits_of_answer? {request : Request} {delivery : Delivery} {message : Message}
    (h : request.answer? delivery = some message) :
    ∀ record ∈ message.records, record.DataFits := by
  obtain ⟨payload, -, hdecode, -⟩ := Request.answer?_eq_some.1 h
  exact Message.dataFits_of_decode hdecode

namespace Message

variable {message : Message} {record : Record}

theorem IsReferral.verdict (h : message.IsReferral) (config : Config) (query : Query) :
    message.verdict config query = message.referralVerdict := by
  obtain ⟨hresponse, hauthority, hanswers⟩ := h
  simp [Message.verdict, hresponse, hauthority, hanswers]

/-- The addresses that come with a referral are those of its records. -/
theorem mem_glue {address : IPv4} (hmem : record ∈ message.additionals) (htype : record.type = .a)
    (hdata : record.data = .a address) : .v4 address ∈ message.glue := by
  unfold glue addressesOf
  apply List.mem_eraseDups.2
  apply List.mem_filterMap.2
  exact ⟨record, List.mem_filter.2 ⟨hmem, by simp [htype]⟩, by rw [hdata]; rfl⟩

theorem glue_eq_nil (h : ∀ record ∈ message.additionals, record.type ≠ .a) : message.glue = [] := by
  unfold glue
  rw [List.filter_eq_nil_iff.2 fun record hmem => by simp [h record hmem]]
  rfl

/-- The nameservers of a referral are those of its records. -/
theorem mem_delegates {name : Name} (hmem : record ∈ message.authorities)
    (hdata : record.data = .ns name) : name ∈ message.delegates := by
  unfold delegates
  apply List.mem_eraseDups.2
  apply List.mem_filterMap.2
  exact ⟨record, hmem, by rw [hdata]; rfl⟩

theorem referralVerdict_of_mem_glue {address : IpAddress} (h : address ∈ message.glue) :
    message.referralVerdict = .servers message.glue := by
  unfold referralVerdict
  split
  · rename_i hnone
    rw [hnone] at h
    cases h
  · rfl

theorem referralVerdict_of_mem_delegates {name : Name} (hnone : message.glue = [])
    (h : name ∈ message.delegates) : message.referralVerdict = .nameservers message.delegates := by
  unfold referralVerdict
  simp only [hnone]
  split
  · rename_i hnobody
    rw [hnobody] at h
    cases h
  · rfl

end Message

/-! ## Asking -/

/-- A visit, which is the innermost one under way, asks its server its query. -/
def Visit.IsAsking (config : Config) (visit : Visit) (outer : List Visit) (past : History)
    (occurrence : Occurrence) : Prop :=
  past.underWay = visit :: outer ∧
    ∃ request delivery, occurrence = .exchanged request delivery ∧ visit.Sends config request

theorem Occurrence.eq_exchanged_of_isExchange {occurrence : Occurrence}
    (h : occurrence.isExchange = true) :
    ∃ request delivery, occurrence = .exchanged request delivery := by
  unfold isExchange at h
  split at h
  · exact ⟨_, _, rfl⟩
  · cases h

/-- After some past a visit asks its server its query. -/
def History.Asked (config : Config) (visit : Visit) (outer : List Visit) (past recent : History) :
    Prop :=
  Sometimes (fun before occurrence _ => visit.IsAsking config outer before occurrence) past recent

section Courses

variable {config : Config} {visit : Visit} {past recent opening : History} {answer : Answer}
  {outer : List Visit}

/-- Asking a server is sending it the query. -/
theorem Visit.Asks.exists_sends {result : Except ResolutionError Message}
    (h : visit.Asks config opening result) :
    ∃ before request delivery rest, opening = before ++ .exchanged request delivery :: rest ∧
      visit.Sends config request := by
  cases h with
  | failed hawaits hsent hbranch =>
    obtain ⟨occurrence, hmem, hexchange⟩ := hsent
    obtain ⟨request, delivery, rfl⟩ := Occurrence.eq_exchanged_of_isExchange hexchange
    obtain ⟨before, rest, rfl⟩ := List.append_of_mem hmem
    exact ⟨before, request, delivery, rest, rfl, (hawaits _ hmem).sends request delivery rfl⟩
  | answered hawaits hsends hanswer hafter => exact ⟨_, _, _, _, rfl, hsends⟩

/-- What is found without asking settles the answer. -/
theorem Visit.Opens.exists_asks {found : Except ResolutionError Verdict} {calls : List Call}
    (h : visit.Opens config opening found) (hpursues : visit.Pursues config found calls answer)
    (hunsettled : answer.isSettled = false) : ∃ result, visit.Asks config opening result := by
  cases h with
  | failed hasks => exact ⟨_, hasks⟩
  | answered hasks => exact ⟨_, hasks⟩
  | completed target hasks hverdict => exact ⟨_, hasks⟩
  | tooDeep hdepth =>
    cases hpursues
    cases hunsettled
  | known hrecords =>
    cases hpursues
    cases hunsettled
  | knownAlias target =>
    cases hpursues
    simp [Answer.isSettled_throughAlias] at hunsettled

/-- **A visit that leaves its query to other servers has asked its own.** -/
theorem Course.asked (h : Course config visit recent answer)
    (hunsettled : answer.isSettled = false) (hpast : past.underWay = visit :: outer) :
    History.Asked config visit outer past recent := by
  cases h with
  | intro hopens hpursues hcalls =>
    obtain ⟨result, hasks⟩ := hopens.exists_asks hpursues hunsettled
    obtain ⟨before, request, delivery, rest, rfl, hsends⟩ := hasks.exists_sends
    apply History.Sometimes.append_left
    refine ⟨before, _, rest, rfl, ?_, request, delivery, rfl, hsends⟩
    rw [hopens.underWay_append, hpast]

/-- A call that leaves the query of its visit to other servers has asked. -/
theorem Call.asked_of_mem {visits : List Visit} {calls : List Call} {call : Call}
    (hcalls : ∀ call ∈ calls, call.IsCourse config) (hpast : past.underWay = visits)
    (hmem : call ∈ calls) (hunsettled : call.answer.isSettled = false) :
    History.Asked config call.visit visits past (calls.flatMap Call.span) := by
  obtain ⟨made, later, rfl⟩ := List.append_of_mem hmem
  have hmade : (past ++ made.flatMap Call.span).underWay = visits := by
    rw [History.underWay_append_courses, hpast]
    exact fun call hmem => hcalls call (List.mem_append_left _ hmem)
  rw [List.flatMap_append, List.flatMap_cons]
  apply History.Sometimes.append_right
  apply History.Sometimes.append_left
  apply Call.sometimes_span
  apply Course.asked (hcalls call hmem) hunsettled
  rw [History.underWay_append_entered, hmade]

/-- When a call ends it is the innermost visit under way. -/
theorem Call.underWay_left {visits : List Visit} {made later : List Call} {call : Call}
    (hcalls : ∀ other ∈ made ++ call :: later, other.IsCourse config)
    (hpast : past.underWay = visits) :
    (past ++ (made.flatMap Call.span ++ .entered call.visit :: call.history)).underWay =
      call.visit :: visits := by
  have hmade : (past ++ made.flatMap Call.span).underWay = visits := by
    rw [History.underWay_append_courses, hpast]
    exact fun call hmem => hcalls call (List.mem_append_left _ hmem)
  rw [← List.append_assoc, List.append_cons, Course.underWay (hcalls call (by simp)),
    History.underWay_append_entered, hmade]

/-! ## Exhausting a referral -/

/-- All that a referral names is tried after it has arrived: the servers whose addresses come with
it, or else, if there are none, the servers at the addresses of all its nameservers, which are
looked up from the root for this purpose. -/
structure History.Exhausts (config : Config) (visit : Visit) (outer : List Visit)
    (message : Message) (past recent : History) : Prop where
  /-- The servers are asked. -/
  servers : ∀ record ∈ message.additionals, record.type = .a →
    ∃ address, record.data = .a address ∧
      Asked config (visit.referral (.v4 address)) (visit :: outer) past recent
  /-- The nameservers are looked up, and the servers at their addresses are asked. -/
  nameservers : (∀ record ∈ message.additionals, record.type ≠ .a) →
    ∀ record ∈ message.authorities, record.type = .ns →
      ∃ name, record.data = .ns name ∧ Sometimes (fun before occurrence rest =>
        before.underWay = visit.nameserver config name :: visit :: outer ∧
        ∃ found, occurrence = .left (visit.nameserver config name) found ∧
          ∀ address ∈ found.addresses,
            Asked config (visit.referral address) (visit :: outer) (before ++ [occurrence]) rest)
        past recent

/-- What happens later does not matter. -/
theorem History.Exhausts.append {message : Message}
    (h : History.Exhausts config visit outer message past recent) (next : History) :
    History.Exhausts config visit outer message past (recent ++ next) where
  servers record hmem htype := by
    obtain ⟨address, hdata, hasked⟩ := h.servers record hmem htype
    exact ⟨address, hdata, .append_left hasked⟩
  nameservers hnone record hmem htype := by
    obtain ⟨name, hdata, hlookedUp⟩ := h.nameservers hnone record hmem htype
    refine ⟨name, hdata, .append_left (hlookedUp.mono ?_)⟩
    rintro before occurrence rest ⟨hunderWay, found, hleft, hasked⟩
    exact ⟨hunderWay, found, hleft, fun address hmem => .append_left (hasked address hmem)⟩

/-- A visit that leaves its query to other servers has tried all servers that it found. -/
theorem Visit.Pursues.asked {servers : List IpAddress} {calls : List Call} {address : IpAddress}
    (h : visit.Pursues config (.ok (.servers servers)) calls answer)
    (hcalls : ∀ call ∈ calls, call.IsCourse config) (hunsettled : answer.isSettled = false)
    (hpast : past.underWay = visit :: outer) (hmem : address ∈ servers) :
    History.Asked config (visit.referral address) (visit :: outer) past
      (calls.flatMap Call.span) := by
  cases h with
  | servers hrefers =>
    obtain ⟨made, call, later, hsplit, hvisit, hcall⟩ := hrefers.exists_call hunsettled hmem
    rw [← hvisit]
    exact Call.asked_of_mem hcalls hpast (by simp [hsplit]) hcall

/-- It has looked up all nameservers that it found, and tried the servers at their addresses. -/
theorem Visit.Pursues.lookedUp {names : List Name} {calls : List Call} {name : Name}
    (h : visit.Pursues config (.ok (.nameservers names)) calls answer)
    (hcalls : ∀ call ∈ calls, call.IsCourse config) (hunsettled : answer.isSettled = false)
    (hpast : past.underWay = visit :: outer) (hmem : name ∈ names) :
    History.Sometimes (fun before occurrence rest =>
      before.underWay = visit.nameserver config name :: visit :: outer ∧
      ∃ found, occurrence = .left (visit.nameserver config name) found ∧
        ∀ address ∈ found.addresses, History.Asked config (visit.referral address) (visit :: outer)
          (before ++ [occurrence]) rest) past (calls.flatMap Call.span) := by
  cases h with
  | nameservers htries =>
    obtain ⟨made, call, later, rfl, hvisit, hservers⟩ := htries.exists_call hunsettled hmem
    rw [← hvisit]
    have hended := Call.underWay_left hcalls hpast
    refine ⟨made.flatMap Call.span ++ .entered call.visit :: call.history,
      .left call.visit call.answer, later.flatMap Call.span, by simp [Call.span], hended,
      call.answer, rfl, ?_⟩
    intro address haddress
    obtain ⟨made', call', later', rfl, hvisit', hcall'⟩ := hservers address haddress
    rw [← hvisit']
    refine Call.asked_of_mem (fun call hmem => hcalls call (by simp [hmem])) ?_ (by simp) hcall'
    rw [History.underWay_append_left, hended]
    rfl

/-- **A visit that leaves its query to other servers exhausts the referral that it received.** -/
theorem Visit.Opens.exhausts {before rest : History} {occurrence : Occurrence} {message : Message}
    {found : Except ResolutionError Verdict} {calls : List Call}
    (h : visit.Opens config opening found) (hpursues : visit.Pursues config found calls answer)
    (hcalls : ∀ call ∈ calls, call.IsCourse config) (hunsettled : answer.isSettled = false)
    (hpast : past.underWay = visit :: outer) (hopening : opening = before ++ occurrence :: rest)
    (hanswer : occurrence.answer? = some message) (hreferral : message.IsReferral) :
    History.Exhausts config visit outer message (past ++ before ++ [occurrence])
      (rest ++ calls.flatMap Call.span) := by
  obtain ⟨request, delivery, rfl, hanswer⟩ := Occurrence.answer?_eq_some.1 hanswer
  have hfits := Request.dataFits_of_answer? hanswer
  have hopened : (past ++ before ++ [Occurrence.exchanged request delivery] ++ rest).underWay =
      visit :: outer := by
    have hwhole : past ++ before ++ [Occurrence.exchanged request delivery] ++ rest =
        past ++ opening := by simp [hopening]
    rw [hwhole, History.underWay_append_of_steady h.steady, hpast]
  have hfound : found = .ok message.referralVerdict := by
    rw [← hreferral.verdict config visit.query]
    rcases (h.of_answer hopening hanswer).1 with hfound | ⟨hunusable, -⟩
    · exact hfound
    · rw [hreferral.verdict] at hunusable
      rcases message.referralVerdict_cases with heq | ⟨names, heq⟩ | ⟨servers, heq⟩ <;>
        simp [heq] at hunusable
  constructor
  · intro record hmem htype
    have hrecord : record ∈ message.records := by simp [Message.records, hmem]
    obtain ⟨address, hdata⟩ := Record.exists_data_eq_a (hfits record hrecord) htype
    have hglue := Message.mem_glue hmem htype hdata
    rw [hfound, Message.referralVerdict_of_mem_glue hglue] at hpursues
    exact ⟨address, hdata, .append_right (hpursues.asked hcalls hunsettled hopened hglue)⟩
  · intro hnone record hmem htype
    have hrecord : record ∈ message.records := by simp [Message.records, hmem]
    obtain ⟨name, hdata⟩ := Record.exists_data_eq_ns (hfits record hrecord) htype
    have hdelegate := Message.mem_delegates hmem hdata
    rw [hfound, Message.referralVerdict_of_mem_delegates (Message.glue_eq_nil hnone) hdelegate]
      at hpursues
    exact ⟨name, hdata, .append_right (hpursues.lookedUp hcalls hunsettled hopened hdelegate)⟩

/-- **A visit that leaves its query to other servers exhausts all referrals that it receives,** and
so do those to which it leaves it.  The visits for nameservers are left out. -/
theorem Course.exhausts (h : Course config visit recent answer)
    (hunsettled : answer.isSettled = false) (hpast : past.underWay = visit :: outer) :
    History.Always (fun before occurrence rest => ∀ inner message,
      before.underWay = inner ++ visit :: outer → NoNameserver inner →
      occurrence.answer? = some message → message.IsReferral →
      ∃ innermost around, before.underWay = innermost :: around ∧ innermost.query = visit.query ∧
        History.Exhausts config innermost around message (before ++ [occurrence]) rest)
      past recent := by
  induction h generalizing past outer with
  | @intro visit opening found calls answer hopens hpursues hcalls ih =>
    refine Course.always hpast hopens hcalls ?_ ?_
    · intro before occurrence rest hopening hbefore inner message _ _ hanswer hreferral
      exact ⟨visit, outer, hbefore, rfl,
        hopens.exhausts hpursues hcalls hunsettled hpast hopening hanswer hreferral⟩
    · intro made call later hsplit start _ hstart
      have hmem : call ∈ calls := by simp [hsplit]
      constructor
      case begins =>
        intro inner message _ _ hanswer
        cases hanswer
      case goesOn =>
        intro hentered before occurrence rest hhistory inner message hinner hapart hanswer hreferral
        obtain ⟨inside, hinside⟩ :=
          (hcalls call hmem).within hentered before occurrence rest hhistory
        obtain rfl : inner = inside ++ [call.visit] :=
          eq_append_singleton_of_append_eq (hinner.symm.trans hinside)
        obtain ⟨server, hvisit, hcall⟩ := hpursues.of_call_of_unsettled hsplit hunsettled
          (hapart call.visit (by simp))
        obtain ⟨innermost, around, hunderWay, hquery, hexhausts⟩ :=
          ih call hmem hcall hentered before occurrence rest hhistory inside message hinside
            (fun visit hmem => hapart visit (List.mem_append_left _ hmem)) hanswer hreferral
        refine ⟨innermost, around, hunderWay, ?_, hexhausts.append _⟩
        rw [hquery, hvisit]
        rfl
      case ends =>
        intro finish _ _ inner message _ _ hanswer
        cases hanswer

end Courses

/-! ## Whole lookups -/

/-- **Before a lookup fails it exhausts every referral.**  Take a lookup on any network that fails,
but neither because of a limit nor because of an alias, and a response that refers to other servers
and arrives while no nameserver is being looked up.  It came in answer to the query of the lookup,
and afterwards all that it names was tried. -/
theorem Resolver.referrals_exhausted {σ : Type} (resolver : Resolver) (query : Query)
    (network : Network σ) (state : σ) (error : ResolutionError)
    (hfailed : ((resolver.lookup query).hold network state).value.1 = .error error)
    (hbranch : error.isLookupWide = false) :
    ∀ (past : History) occurrence (rest : History) message,
      ((resolver.lookup query).hold network state).transcript.history =
        past ++ occurrence :: rest →
      NoNameserver past.underWay → occurrence.answer? = some message → message.IsReferral →
      ∃ visit outer, past.underWay = visit :: outer ∧ visit.query = query ∧
        History.Exhausts resolver.config visit outer message (past ++ [occurrence]) rest := by
  intro past occurrence rest message hhistory hapart hanswer hreferral
  obtain ⟨request, delivery, rfl, -⟩ := Occurrence.answer?_eq_some.1 hanswer
  obtain ⟨call, hvisit, hvalue, hcourse, reports, hreports, hmoment⟩ :=
    resolver.exists_moment query network state hhistory (.inl ⟨request, delivery, rfl⟩)
  have hunsettled : call.answer.isSettled = false := by
    rw [hvalue, hfailed]
    exact hbranch
  have hentered : History.underWay [.entered call.visit] = [call.visit] := rfl
  rcases hmoment with ⟨before, inside, rfl, hinside, rfl⟩ | ⟨-, heq, -⟩
  · obtain ⟨inner, hinner⟩ := hcourse.within hentered before _ inside hinside
    obtain ⟨visit, outer, hunderWay, hquery, hexhausts⟩ :=
      hcourse.exhausts hunsettled hentered before _ inside hinside inner message hinner
        (fun visit hmem => hapart visit (by
          show visit ∈ History.underWay ([.entered call.visit] ++ before)
          rw [hinner]
          exact List.mem_append_left _ hmem)) hanswer hreferral
    refine ⟨visit, outer, hunderWay, ?_, hexhausts.append _⟩
    rw [hquery, hvisit]
    rfl
  · cases heq

/-- A network on which `www.example.com` has two nameservers.  The first one has no address, and the
second one has two of them: nobody answers at the one, and the server at the other one refers to a
server that refuses to answer. -/
def refusalScript : Script where
  rules := [
    ⟨.v4 ⟨10, 0, 0, 1⟩, some ⟨"www.example.com"⟩, none, [.response false fun message =>
      (message.addAuthority
        ⟨⟨"example.com"⟩, .ns, internetClass, 60, .ns ⟨"ns1.example.org"⟩⟩).addAuthority
        ⟨⟨"example.com"⟩, .ns, internetClass, 60, .ns ⟨"ns2.example.org"⟩⟩]⟩,
    ⟨.v4 ⟨10, 0, 0, 1⟩, some ⟨"ns1.example.org"⟩, none, [.response true id]⟩,
    ⟨.v4 ⟨10, 0, 0, 1⟩, some ⟨"ns2.example.org"⟩, none, [.response true fun message =>
      (message.addAnswer
        ⟨⟨"ns2.example.org"⟩, .a, internetClass, 60, .a ⟨10, 0, 0, 2⟩⟩).addAnswer
        ⟨⟨"ns2.example.org"⟩, .a, internetClass, 60, .a ⟨10, 0, 0, 3⟩⟩]⟩,
    ⟨.v4 ⟨10, 0, 0, 3⟩, none, none, [.response false (·.addAdditional
      ⟨⟨"ns3.example.org"⟩, .a, internetClass, 60, .a ⟨10, 0, 0, 4⟩⟩)]⟩,
    ⟨.v4 ⟨10, 0, 0, 4⟩, none, none, [refusal]⟩]
  nextId := 7
where
  /-- A response that comes back at once and refuses to answer. -/
  refusal : ScriptedReply :=
    let flags := (Flags.none.setResponse true).setResponseCode 5
    ⟨0, .message (.ofHeader (.empty 0 flags)) 0 true none⟩

/-- The referral of the root to both nameservers is exhausted. -/
theorem Resolver.referrals_exhausted_refusal :
    let resolver := Resolver.ofConfig { rootServer := .v4 ⟨10, 0, 0, 1⟩, maxRetries := 0 }
    let query : Query := ⟨⟨"www.example.com"⟩, .a⟩
    let held := (resolver.lookup query).hold Script.network refusalScript
    let history : History := held.transcript.history
    held.value.1 = .error (.refused (.v4 ⟨10, 0, 0, 4⟩)) ∧
      ∃ occurrence message, history[2]? = some occurrence ∧ occurrence.answer? = some message ∧
        message.IsReferral ∧
        History.Exhausts resolver.config (resolver.config.firstVisit query) [] message
          (history.take 2 ++ [occurrence]) (history.drop 3) := by
  intro resolver query
  have hlookup : ((resolver.lookup query).hold Script.network refusalScript).value.1 =
        .error (.refused (.v4 ⟨10, 0, 0, 4⟩)) ∧
      (∃ occurrence ∈ ((resolver.lookup query).hold Script.network
          refusalScript).transcript.history[2]?,
        ∃ message ∈ occurrence.answer?, message.IsReferral) ∧
      History.underWay (((resolver.lookup query).hold Script.network
        refusalScript).transcript.history.take 2) = [resolver.config.firstVisit query] := by
    decide +kernel
  obtain ⟨hfailed, ⟨occurrence, hmoment, message, hanswer, hreferral⟩, hunderWay⟩ := hlookup
  obtain ⟨visit, outer, hvisits, -, hexhausts⟩ :=
    referrals_exhausted resolver query Script.network refusalScript _ hfailed rfl _ occurrence _
      message (History.eq_take_append_cons_drop hmoment) (by simp [hunderWay, NoNameserver,
        Config.firstVisit]) hanswer hreferral
  rw [hunderWay] at hvisits
  cases hvisits
  exact ⟨hfailed, occurrence, message, hmoment, hanswer, hreferral, hexhausts⟩

end IterativeDns
