import IterativeDns.Proofs.Exhaustion
import IterativeDns.Proofs.Repetition
import Mathlib.Data.List.Forall2

/-!
# What servers do

A server may respond to a query, or fail to in several ways, and its response may help or not.  This
file says which ways there are, how they show in what is exchanged with the server, and what a
question to it comes to.

* `Contact` — a query that is put to a server, and `Config.Makes` — which contacts are made by
  what was sent.
* `Conduct` — what a server does whenever a query is put to it, and `Contact.Meets` — what it does
  shows in some exchanges.
* `Conduct.Brings` — what a question to a server of some conduct comes to, and
  `Conduct.ShownBy.brings` — **a datagram comes to what the conduct that it shows brings.**
* `Conduct.Fails` — how a visit to a server fails that does not help, and
  `Message.Answers` — what a server sends that does.
-/

namespace IterativeDns

/-! ## Contacts -/

/-- A request and what came of it. -/
structure Exchange where
  /-- The request. -/
  request : Request
  /-- What came of it. -/
  delivery : Delivery
deriving DecidableEq, Repr

/-- The exchange of an occurrence, if it is one. -/
def Occurrence.exchange? : Occurrence → Option Exchange
  | .entry (.exchanged request delivery) => some ⟨request, delivery⟩
  | _ => none

namespace History

/-- All that was sent and what came of it, the oldest first. -/
def exchanges (past : History) : List Exchange := past.filterMap Occurrence.exchange?

@[simp] theorem exchanges_append (past next : History) :
    (past ++ next).exchanges = past.exchanges ++ next.exchanges :=
  List.filterMap_append

/-- Where nothing was sent there is no exchange. -/
theorem exchanges_eq_nil {past : History}
    (h : ∀ occurrence ∈ past, occurrence.isExchange = false) : past.exchanges = [] := by
  refine List.filterMap_eq_nil_iff.2 fun occurrence hmem => ?_
  have hquiet := h occurrence hmem
  rcases occurrence with ⟨_ | _ | _⟩ | _
  case entry.exchanged => cases hquiet
  all_goals rfl

end History

/-- A query that is put to a server. -/
structure Contact where
  /-- The server. -/
  server : IpAddress
  /-- The query. -/
  query : Query
deriving DecidableEq, Repr

namespace Contact

variable (config : Config) (contact : Contact) (exchange : Exchange)

/-- The exchange puts the query to the server, under some identifier. -/
def IsMadeBy : Prop :=
  ∃ id, exchange.request = config.request contact.server (Message.ofQuery id contact.query).encode

/-- The identifier is that of the request. -/
theorem isMadeBy_iff : contact.IsMadeBy config exchange ↔ exchange.request =
    config.request contact.server (Message.ofQuery exchange.request.id contact.query).encode := by
  constructor
  · rintro ⟨id, hrequest⟩
    have hid : exchange.request.id = id := Request.id_of_payload (by rw [hrequest]; rfl)
    rw [hid]
    exact hrequest
  · exact fun hrequest => ⟨_, hrequest⟩

instance : Decidable (contact.IsMadeBy config exchange) :=
  decidable_of_iff _ (isMadeBy_iff config contact exchange).symm

end Contact

/-- The exchanges make the contacts, each exchange one of them, in order. -/
def Config.Makes (config : Config) (exchanges : List Exchange) (contacts : List Contact) : Prop :=
  List.Forall₂ (fun exchange contact => contact.IsMadeBy config exchange) exchanges contacts

/-! ## Conduct -/

/-- A way in which a server fails to respond to a query. -/
inductive Mishap where
  /-- No datagram comes back in time, however often the query is sent. -/
  | silence
  /-- A datagram comes back that holds no message, or one whose response code leaves its body
  without a meaning. -/
  | garbled
  /-- The message that comes back is no response. -/
  | notAResponse
  /-- The response that comes back has another identifier than the query. -/
  | otherId
deriving DecidableEq, Repr

/-- What a server does whenever a query is put to it. -/
inductive Conduct where
  /-- It fails to respond. -/
  | fails (mishap : Mishap)
  /-- A response to the query comes back at once, and it is such a message. -/
  | responds (such : Message → Prop)

/-- The exchange shows the mishap. -/
def Mishap.isShownBy (exchange : Exchange) (mishap : Mishap) : Bool :=
  match mishap, (exchange.delivery.awaited exchange.request).2 with
  | silence, .failure _ => true
  | garbled, .datagram payload => !(Message.decode payload).isOk
  | notAResponse, .datagram payload =>
    (Message.decode payload).toOption.any fun message => !message.header.flags.isResponse
  | otherId, .datagram payload =>
    (Message.decode payload).toOption.any fun message =>
      message.header.flags.isResponse && message.id ≠ exchange.request.id
  | _, _ => false

/-- The exchange shows the conduct. -/
def Conduct.ShownBy (exchange : Exchange) : Conduct → Prop
  | fails mishap => mishap.isShownBy exchange = true
  | responds such => ∃ message ∈ exchange.request.answer? exchange.delivery, such message

instance (exchange : Exchange) (mishap : Mishap) :
    Decidable ((Conduct.fails mishap).ShownBy exchange) :=
  inferInstanceAs (Decidable (_ = true))

instance (exchange : Exchange) (such : Message → Prop) [DecidablePred such] :
    Decidable ((Conduct.responds such).ShownBy exchange) :=
  inferInstanceAs (Decidable (∃ message ∈ exchange.request.answer? exchange.delivery, such message))

/-- Whenever the exchanges make the contact, they show the conduct. -/
def Contact.Meets (config : Config) (exchanges : List Exchange) (contact : Contact)
    (conduct : Conduct) : Prop :=
  ∀ exchange ∈ exchanges, contact.IsMadeBy config exchange → conduct.ShownBy exchange

instance (config : Config) (exchanges : List Exchange) (contact : Contact) (conduct : Conduct)
    [DecidablePred fun exchange => conduct.ShownBy exchange] :
    Decidable (contact.Meets config exchanges conduct) :=
  inferInstanceAs (Decidable (∀ exchange ∈ exchanges, _ → _))

/-- A contact that is made shows what the server does. -/
theorem Contact.Meets.exists_shownBy {config : Config} {exchanges : List Exchange}
    {contacts : List Contact} {contact : Contact} {conduct : Conduct}
    (h : contact.Meets config exchanges conduct) (hmakes : config.Makes exchanges contacts)
    (hmem : contact ∈ contacts) : ∃ exchange, conduct.ShownBy exchange := by
  induction hmakes with
  | nil => cases hmem
  | @cons exchange contact' exchanges contacts hmade _ ih =>
    rcases List.mem_cons.1 hmem with rfl | hmem
    · exact ⟨exchange, h exchange List.mem_cons_self hmade⟩
    · exact ih (fun exchange hexchange => h exchange (List.mem_cons_of_mem _ hexchange)) hmem

/-- How often a query is sent to a server of the conduct. -/
def Conduct.attempts (config : Config) : Conduct → Nat
  | fails .silence => config.maxRetries + 1
  | _ => 1

/-- The contacts by which a query is put to a server of the conduct. -/
def Conduct.contacts (config : Config) (contact : Contact) (conduct : Conduct) : List Contact :=
  List.replicate (conduct.attempts config) contact

/-- The failure by which a mishap at a server is reported. -/
inductive Mishap.Reported (config : Config) (server : IpAddress) :
    Mishap → ResolutionError → Prop where
  /-- The server cannot be reached. -/
  | silence : Reported config server .silence (.unreachable (config.endpoint server))
  /-- There is a fault in the message. -/
  | garbled (fault : WireError) : Reported config server .garbled (.protocol server fault)
  /-- The message is a query. -/
  | notAResponse : Reported config server .notAResponse (.protocol server .notAResponse)
  /-- The identifiers differ. -/
  | otherId {expected received : UInt16} (hother : received ≠ expected) :
      Reported config server .otherId (.protocol server (.idMismatch expected received))

/-- What a question to a server of the conduct comes to. -/
inductive Conduct.Brings (config : Config) (server : IpAddress) :
    Conduct → Except ResolutionError Message → Prop where
  /-- A mishap is reported. -/
  | failure {mishap : Mishap} {error : ResolutionError}
      (hreported : mishap.Reported config server error) :
      Brings config server (.fails mishap) (.error error)
  /-- There is a response. -/
  | response {such : Message → Prop} {message : Message} (hsuch : such message)
      (hfits : ∀ record ∈ message.records, record.DataFits) :
      Brings config server (.responds such) (.ok message)

/-- A server of the conduct does not help with a query, and a visit to it fails. -/
inductive Conduct.Fails (config : Config) (server : IpAddress) :
    Conduct → ResolutionError → Prop where
  /-- It fails to respond. -/
  | mishap {mishap : Mishap} {error : ResolutionError}
      (hreported : mishap.Reported config server error) :
      Fails config server (.fails mishap) error
  /-- It refuses to answer, and the response has no records. -/
  | refuses {such : Message → Prop}
      (hsuch : ∀ message, such message → message.response = .refused ∧ message.records = []) :
      Fails config server (.responds such) (.refused server)
  /-- It is no authority, and the response has no records. -/
  | knowsNothing {such : Message → Prop}
      (hsuch : ∀ message, such message → message.response = .noError ∧
        message.isAuthoritative = false ∧ message.records = []) :
      Fails config server (.responds such) .noNameservers

/-- The answers to a query in a message: those of its name and type, or all of them if the query is
for every type. -/
def Message.answersTo (config : Config) (query : Query) (message : Message) : List Record :=
  if query.type = .any then message.answers else message.direct config query

/-- The message answers a query with authority, by these records. -/
structure Message.Answers (config : Config) (query : Query) (records : List Record)
    (message : Message) : Prop where
  /-- All went well. -/
  response : message.response = .noError
  /-- The sender is an authority. -/
  isAuthoritative : message.isAuthoritative = true
  /-- These are the answers to the query. -/
  answersTo_eq : message.answersTo config query = records
  /-- There are some. -/
  ne_nil : records ≠ []

instance (config : Config) (query : Query) (records : List Record) (message : Message) :
    Decidable (message.Answers config query records) :=
  decidable_of_iff (_ ∧ _ ∧ _ ∧ _) ⟨fun h => ⟨h.1, h.2.1, h.2.2.1, h.2.2.2⟩,
    fun h => ⟨h.response, h.isAuthoritative, h.answersTo_eq, h.ne_nil⟩⟩

theorem Message.Answers.verdict {config : Config} {query : Query} {records : List Record}
    {message : Message} (h : message.Answers config query records) :
    message.verdict config query = .final records := by
  obtain ⟨hresponse, hauthority, rfl, hsome⟩ := h
  have hanswers : message.answers ≠ [] := by
    intro hnone
    exact hsome (by simp [answersTo, direct, hnone])
  rw [Message.verdict, if_neg (by simp [hresponse]), if_neg (by simp [hresponse]),
    if_pos (by simp [hauthority]), answerVerdict, if_neg (by simp [hanswers])]
  unfold answersTo at hsome ⊢
  split
  · rfl
  · rename_i htype
    rw [if_neg htype] at hsome
    cases hdirect : message.direct config query with
    | nil => exact absurd hdirect hsome
    | cons record records => rfl

theorem Message.Answers.type_of_mem {config : Config} {query : Query} {records : List Record}
    {message : Message} (h : message.Answers config query records) (hany : query.type ≠ .any)
    {record : Record} (hmem : record ∈ records) : record.type = query.type := by
  have hdirect : message.direct config query = records := by
    rw [← h.answersTo_eq, answersTo, if_neg hany]
  rw [← hdirect] at hmem
  have hanswers := (List.mem_filter.1 hmem).2
  simp only [Bool.and_eq_true, beq_iff_eq] at hanswers
  exact hanswers.1

theorem Message.verdict_eq_deadEnd {config : Config} {query : Query} {message : Message}
    (hresponse : message.response = .noError) (hauthority : message.isAuthoritative = false)
    (hnone : message.records = []) : message.verdict config query = .deadEnd := by
  simp only [records, List.append_eq_nil_iff] at hnone
  obtain ⟨⟨hanswers, hauthorities⟩, hadditionals⟩ := hnone
  have hreferral : message.IsReferral := ⟨hresponse, hauthority, hanswers⟩
  rw [hreferral.verdict, referralVerdict, glue, delegates, hauthorities, hadditionals]
  rfl

/-- A visit to a server that fails to respond fails, in whatever way. -/
theorem Conduct.exists_fails (config : Config) (server : IpAddress) (mishap : Mishap) :
    ∃ reason, (Conduct.fails mishap).Fails config server reason := by
  cases mishap with
  | silence => exact ⟨_, .mishap .silence⟩
  | garbled => exact ⟨_, .mishap (.garbled .notAResponse)⟩
  | notAResponse => exact ⟨_, .mishap .notAResponse⟩
  | otherId =>
    have hother : (1 : UInt16) ≠ 0 := by decide
    exact ⟨_, .mishap (.otherId hother)⟩

/-- No other server is kept from being asked by a failure of one. -/
theorem Conduct.Fails.isLookupWide {config : Config} {server : IpAddress} {conduct : Conduct}
    {error : ResolutionError} (h : conduct.Fails config server error) :
    error.isLookupWide = false := by
  cases h with
  | mishap hreported => cases hreported <;> rfl
  | refuses => rfl
  | knowsNothing => rfl

namespace Conduct

variable {config : Config} {conduct : Conduct} {exchange : Exchange} {octets : Octets}

theorem contacts_of_heard {contact : Contact} (h : conduct ≠ .fails .silence) :
    conduct.contacts config contact = [contact] := by
  have honce : conduct.attempts config = 1 := by
    rcases conduct with ⟨_ | _⟩ | _
    case fails.silence => exact absurd rfl h
    all_goals rfl
  rw [contacts, honce, List.replicate_one]

/-- A server that is not silent sends a datagram. -/
theorem ShownBy.exists_datagram (h : conduct.ShownBy exchange)
    (hheard : conduct ≠ .fails .silence) :
    ∃ octets, (exchange.delivery.awaited exchange.request).2 = .datagram octets := by
  cases conduct with
  | responds such =>
    obtain ⟨message, hanswer, -⟩ := h
    obtain ⟨octets, hreply, -⟩ := Request.answer?_eq_some.1 hanswer
    exact ⟨octets, hreply⟩
  | fails mishap =>
    dsimp only [ShownBy, Mishap.isShownBy] at h
    cases hreply : (exchange.delivery.awaited exchange.request).2 with
    | datagram octets => exact ⟨octets, rfl⟩
    | failure error =>
      rw [hreply] at h
      cases mishap with
      | silence => exact absurd rfl hheard
      | garbled => cases h
      | notAResponse => cases h
      | otherId => cases h

/-- What comes of a datagram is decided by the conduct that it shows. -/
theorem ShownBy.brings (h : conduct.ShownBy exchange) (config : Config) (server : IpAddress)
    (hreply : (exchange.delivery.awaited exchange.request).2 = .datagram octets) :
    conduct.Brings config server
      ((Message.accept exchange.request.id octets).mapError (.protocol server)) := by
  cases conduct with
  | responds such =>
    obtain ⟨message, hanswer, hsuch⟩ := h
    have hfits := Request.dataFits_of_answer? hanswer
    rw [Request.answer?_of_datagram hreply] at hanswer
    rw [eq_ok_of_toOption hanswer]
    exact .response hsuch hfits
  | fails mishap =>
    simp only [ShownBy, Mishap.isShownBy, hreply] at h
    cases mishap with
    | silence => cases h
    | garbled =>
      cases hdecode : Message.decode octets with
      | ok message => simp [hdecode, Except.isOk, Except.toBool] at h
      | error fault =>
        rw [Message.accept, hdecode]
        exact .failure (.garbled fault)
    | notAResponse =>
      obtain ⟨message, hdecode, hquery⟩ := (Option.any_eq_true _ _).1 h
      have hmismatch : message.mismatch? exchange.request.id = some .notAResponse := by
        simpa [Message.mismatch?] using hquery
      simp only [Message.accept, eq_ok_of_toOption hdecode, hmismatch]
      exact .failure .notAResponse
    | otherId =>
      obtain ⟨message, hdecode, hother⟩ := (Option.any_eq_true _ _).1 h
      obtain ⟨hresponse, hother⟩ : message.header.flags.isResponse = true ∧
          message.id ≠ exchange.request.id := by
        simpa using hother
      have hmismatch : message.mismatch? exchange.request.id =
          some (.idMismatch exchange.request.id message.id) := by
        simp [Message.mismatch?, hresponse, hother]
      simp only [Message.accept, eq_ok_of_toOption hdecode, hmismatch]
      exact .failure (.otherId hother)

end Conduct

end IterativeDns
