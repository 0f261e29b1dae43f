import IterativeDns.Proofs.Recollection

/-!
# The course of a lookup

A lookup is a tree of visits.  Each visit opens, by looking at what is known or by asking its
server, and what it finds decides which other visits it calls, one after the other, and what it
answers.  This file describes that tree as a relation, and says what the calls of one visit have to
do with its answer.  What is known matters only through what a visit finds.

* `Visit.Opens` — how a visit opens and what it finds.
* `Visit.Pursues` — the calls and the answer of a visit that found something.  For servers and
  nameservers in turn there are `Visit.TriesServers` and `Visit.TriesNameservers`.
* `Course` — what goes on in a visit: it opens, and what it finds is pursued by calls, in each of
  which there is such a course again.
* `Visit.Pursues.of_call`, `Visit.Pursues.of_settled` — which calls decide the answer of a visit.
* `Visit.TriesServers.exists_call`, `Visit.TriesNameservers.exists_call` — which calls there are if
  none of them does, and `Visit.Pursues.next_of_call` — which one comes after a nameserver
  that could not be resolved.
-/

namespace IterativeDns

/-! ## What happens in visits -/

namespace Occurrence

/-- A visit begins. -/
@[match_pattern] abbrev entered (visit : Visit) : Occurrence := .entry (.noted (.entered visit))

/-- A visit ends. -/
@[match_pattern] abbrev left (visit : Visit) (answer : Answer) : Occurrence :=
  .entry (.noted (.left visit answer))

/-- A request is sent, and this comes of it. -/
@[match_pattern] abbrev exchanged (request : Request) (delivery : Delivery) : Occurrence :=
  .entry (.exchanged request delivery)

/-- A visit begins or ends. -/
def isTurn : Occurrence → Bool
  | entered _ => true
  | left _ _ => true
  | _ => false

end Occurrence

/-- A visit that has ended. -/
structure Call where
  /-- The visit. -/
  visit : Visit
  /-- What happened in it. -/
  history : History
  /-- How it ended. -/
  answer : Answer

/-- What a call adds to a history: its beginning, what happens in it, and its end. -/
def Call.span (call : Call) : History :=
  .entered call.visit :: (call.history ++ [.left call.visit call.answer])

namespace Visit

/-- The visit to a server that was referred to. -/
def referral (visit : Visit) (server : IpAddress) : Visit :=
  { visit with purpose := .referral, server, referrals := visit.referrals + 1 }

/-- The visit for the name that an alias stands for. -/
def aliasTarget (config : Config) (visit : Visit) (target : Name) : Visit :=
  ⟨.aliasTarget, { visit.query with name := target }, config.rootServer, visit.depth + 1, 0⟩

/-- The visit for the name of a nameserver. -/
def nameserver (config : Config) (visit : Visit) (name : Name) : Visit :=
  ⟨.nameserver, ⟨name, .a⟩, config.rootServer, visit.depth + 1, 0⟩

end Visit

namespace Answer

/-- No other server is asked: there are records, perhaps none, or a failure of the whole lookup. -/
def isSettled : Answer → Bool
  | .ok _ => true
  | .error error => error.isLookupWide

/-- A limit was reached. -/
def isLimit : Answer → Bool
  | .ok _ => false
  | .error error => error.isLimit

/-- The addresses that the lookup of a nameserver brings. -/
def addresses : Answer → List IpAddress
  | .ok records => addressesOf records
  | .error _ => []

/-- The answer to a query whose name is an alias, from the answer for what it stands for. -/
def throughAlias (query : Query) (target : Name) : Answer → Answer
  | .ok records => .ok (records.map (·.rekeyed query))
  | .error error => .error (error.forAlias target)

end Answer

/-! ## Opening a visit -/

namespace Visit

/-- The request by which the server of a visit is asked its query under an identifier. -/
def request (config : Config) (visit : Visit) (id : UInt16) : Request :=
  config.request visit.server (Message.ofQuery id visit.query).encode

/-- A request asks the server of a visit its query. -/
def Sends (config : Config) (visit : Visit) (request : Request) : Prop :=
  ∃ id, request = visit.request config id

/-- What may happen before a server answers: no visit begins or ends, nothing arrives, and whatever
is sent asks the server of the visit its query. -/
structure Awaits (config : Config) (visit : Visit) (occurrence : Occurrence) : Prop where
  /-- No visit begins or ends. -/
  steady : occurrence.isTurn = false
  /-- Nothing arrives. -/
  unanswered : occurrence.answer? = none
  /-- Whatever is sent asks the server of the visit its query. -/
  sends : ∀ request delivery, occurrence = .exchanged request delivery →
    visit.Sends config request

/-- What happens while the server of a visit is asked its query, and what comes of it. -/
inductive Asks (config : Config) (visit : Visit) :
    History → Except ResolutionError Message → Prop where
  /-- Something is sent, but nothing that is acceptable comes back. -/
  | failed {asked : History} {error : ResolutionError}
      (hawaits : ∀ occurrence ∈ asked, visit.Awaits config occurrence)
      (hsent : ∃ occurrence ∈ asked, occurrence.isExchange = true)
      (hbranch : error.isLookupWide = false) : Asks config visit asked (.error error)
  /-- A message comes of what was sent last. -/
  | answered {before after : History} {request : Request} {delivery : Delivery}
      {message : Message} (hawaits : ∀ occurrence ∈ before, visit.Awaits config occurrence)
      (hsends : visit.Sends config request) (hanswer : request.answer? delivery = some message)
      (hafter : ∀ occurrence ∈ after,
        occurrence.isTurn = false ∧ occurrence.isExchange = false) :
      Asks config visit (before ++ .exchanged request delivery :: after) (.ok message)

/-- How a visit opens, and what it finds. -/
inductive Opens (config : Config) (visit : Visit) :
    History → Except ResolutionError Verdict → Prop where
  /-- The visit lies below the limit of indirection. -/
  | tooDeep (hdepth : visit.depth = config.maxIndirection + 1) :
      Opens config visit [] (.error (.indirectionLimit config.maxIndirection))
  /-- Records are known. -/
  | known {records : List Record} (hrecords : records ≠ []) :
      Opens config visit [] (.ok (.final records))
  /-- An alias is known. -/
  | knownAlias (target : Name) : Opens config visit [] (.ok (.aliased target))
  /-- The server is asked and does not answer. -/
  | failed {asked : History} {error : ResolutionError}
      (hasks : visit.Asks config asked (.error error)) : Opens config visit asked (.error error)
  /-- The server is asked and answers. -/
  | answered {asked : History} {message : Message} (hasks : visit.Asks config asked (.ok message)) :
      Opens config visit asked (.ok (message.verdict config visit.query))
  /-- The server is asked, and its answer helps together with an alias that is known. -/
  | completed {asked : History} {message : Message} (target : Name)
      (hasks : visit.Asks config asked (.ok message))
      (hverdict : message.verdict config visit.query = .unusable) :
      Opens config visit asked (.ok (.aliased target))

/-! ## Pursuing what was found -/

/-- Servers are visited in turn until the answer of one is settled; there is a failure to end with
if there are no more servers. -/
inductive TriesServers (visit : Visit) :
    ResolutionError → List IpAddress → List Call → Answer → Prop where
  /-- There are no more servers. -/
  | noServers (last : ResolutionError) : TriesServers visit last [] [] (.error last)
  /-- A server has a settled answer. -/
  | settled {last : ResolutionError} {server : IpAddress} {servers : List IpAddress} {call : Call}
      (hvisit : call.visit = visit.referral server) (hsettled : call.answer.isSettled = true) :
      TriesServers visit last (server :: servers) [call] call.answer
  /-- A server fails, and the next one is visited. -/
  | next {last error : ResolutionError} {server : IpAddress} {servers : List IpAddress}
      {call : Call} {calls : List Call} {answer : Answer}
      (hvisit : call.visit = visit.referral server) (hanswer : call.answer = .error error)
      (hbranch : error.isLookupWide = false)
      (hrest : TriesServers visit error servers calls answer) :
      TriesServers visit last (server :: servers) (call :: calls) answer

/-- A referral to servers is followed, unless too many were followed already. -/
inductive Refers (config : Config) (visit : Visit) (servers : List IpAddress) :
    List Call → Answer → Prop where
  /-- No more referrals may be followed. -/
  | limit (hreferrals : config.maxReferrals ≤ visit.referrals) :
      Refers config visit servers [] (.error (.referralLimit config.maxReferrals))
  /-- The servers are tried. -/
  | tries {calls : List Call} {answer : Answer} (hreferrals : visit.referrals < config.maxReferrals)
      (htries : visit.TriesServers .noNameservers servers calls answer) :
      Refers config visit servers calls answer

/-- Nameservers are looked up in turn, and the referral to their addresses is followed, until there
is a settled answer; there is a failure to end with if there are no more nameservers. -/
inductive TriesNameservers (config : Config) (visit : Visit) :
    ResolutionError → List Name → List Call → Answer → Prop where
  /-- There are no more nameservers. -/
  | noNames (last : ResolutionError) : TriesNameservers config visit last [] [] (.error last)
  /-- A limit was reached in the lookup of a nameserver. -/
  | limit {last : ResolutionError} {name : Name} {names : List Name} {call : Call}
      (hvisit : call.visit = visit.nameserver config name) (hlimit : call.answer.isLimit = true) :
      TriesNameservers config visit last (name :: names) [call] call.answer
  /-- A nameserver has no addresses, and the next one is looked up. -/
  | passedOver {last : ResolutionError} {name : Name} {names : List Name} {call : Call}
      {calls : List Call} {answer : Answer} (hvisit : call.visit = visit.nameserver config name)
      (hlimit : call.answer.isLimit = false) (hnone : call.answer.addresses = [])
      (hrest : TriesNameservers config visit last names calls answer) :
      TriesNameservers config visit last (name :: names) (call :: calls) answer
  /-- The servers at the addresses of a nameserver bring a settled answer. -/
  | settled {last : ResolutionError} {name : Name} {names : List Name} {call : Call}
      {tried : List Call} {answer : Answer} (hvisit : call.visit = visit.nameserver config name)
      (hsome : call.answer.addresses ≠ [])
      (hrefers : visit.Refers config call.answer.addresses tried answer)
      (hsettled : answer.isSettled = true) :
      TriesNameservers config visit last (name :: names) (call :: tried) answer
  /-- The servers at the addresses of a nameserver fail, and the next nameserver is looked up. -/
  | exhausted {last error : ResolutionError} {name : Name} {names : List Name} {call : Call}
      {tried calls : List Call} {answer : Answer}
      (hvisit : call.visit = visit.nameserver config name) (hsome : call.answer.addresses ≠ [])
      (hrefers : visit.Refers config call.answer.addresses tried (.error error))
      (hbranch : error.isLookupWide = false)
      (hrest : TriesNameservers config visit error names calls answer) :
      TriesNameservers config visit last (name :: names) (call :: (tried ++ calls)) answer

/-- The calls of a visit that found something, and its answer. -/
inductive Pursues (config : Config) (visit : Visit) :
    Except ResolutionError Verdict → List Call → Answer → Prop where
  /-- The visit could not find anything. -/
  | failed (error : ResolutionError) : Pursues config visit (.error error) [] (.error error)
  /-- The records are the answer. -/
  | final (records : List Record) : Pursues config visit (.ok (.final records)) [] (.ok records)
  /-- The server refuses to answer. -/
  | refused : Pursues config visit (.ok .refused) [] (.error (.refused visit.server))
  /-- The name that the alias stands for is looked up. -/
  | aliased {target : Name} {call : Call} (hvisit : call.visit = visit.aliasTarget config target) :
      Pursues config visit (.ok (.aliased target)) [call]
        (call.answer.throughAlias visit.query target)
  /-- The answers do not help. -/
  | unusable : Pursues config visit (.ok .unusable) [] (.error .noUsableAnswer)
  /-- Servers are visited. -/
  | servers {addresses : List IpAddress} {calls : List Call} {answer : Answer}
      (hrefers : visit.Refers config addresses calls answer) :
      Pursues config visit (.ok (.servers addresses)) calls answer
  /-- Nameservers are looked up, and servers visited. -/
  | nameservers {names : List Name} {calls : List Call} {answer : Answer}
      (htries : visit.TriesNameservers config .unresolvableNameservers names calls answer) :
      Pursues config visit (.ok (.nameservers names)) calls answer
  /-- There is nothing to go on with. -/
  | deadEnd : Pursues config visit (.ok .deadEnd) [] (.error .noNameservers)

end Visit

/-! ## The tree of visits -/

/-- What goes on in a visit, and its answer. -/
inductive Course (config : Config) : Visit → History → Answer → Prop where
  /-- The visit opens and pursues what it finds by calls that are courses themselves. -/
  | intro {visit : Visit} {opening : History} {found : Except ResolutionError Verdict}
      {calls : List Call} {answer : Answer} (hopens : visit.Opens config opening found)
      (hpursues : visit.Pursues config found calls answer)
      (hcalls : ∀ call ∈ calls, Course config call.visit call.history call.answer) :
      Course config visit (opening ++ calls.flatMap Call.span) answer

/-- A visit that calls no other only opens. -/
theorem Course.of_opens {config : Config} {visit : Visit} {opening : History}
    {found : Except ResolutionError Verdict} {answer : Answer}
    (hopens : visit.Opens config opening found) (hpursues : visit.Pursues config found [] answer) :
    Course config visit opening answer := by
  have hcourse := Course.intro hopens hpursues (by simp)
  simpa using hcourse

/-- What happened in a call is a course. -/
def Call.IsCourse (config : Config) (call : Call) : Prop :=
  Course config call.visit call.history call.answer

/-! ## What a call means for a visit -/

/-- An element of two lists in a row stands in the first or in the second. -/
theorem append_eq_append_cons_iff {α : Type} {xs ys before after : List α} {a : α} :
    xs ++ ys = before ++ a :: after ↔
      (∃ between, xs = before ++ a :: between ∧ after = between ++ ys) ∨
        ∃ between, before = xs ++ between ∧ ys = between ++ a :: after := by
  constructor
  · intro h
    rcases List.append_eq_append_iff.1 h with ⟨between, hbefore, hys⟩ | ⟨between, hxs, hafter⟩
    · exact .inr ⟨between, hbefore, hys⟩
    · cases between with
      | nil => exact .inr ⟨[], by simpa using hxs.symm, by simpa using hafter.symm⟩
      | cons first between =>
        obtain ⟨rfl, rfl⟩ := List.cons.inj hafter
        exact .inl ⟨between, hxs, rfl⟩
  · rintro (⟨between, rfl, rfl⟩ | ⟨between, rfl, rfl⟩)
    · simp
    · simp

namespace Answer

variable {answer : Answer}

theorem isSettled_eq_false_iff :
    answer.isSettled = false ↔ ∃ error, answer = .error error ∧ error.isLookupWide = false := by
  cases answer with
  | ok records => simp [isSettled]
  | error error => simp [isSettled]

theorem isSettled_throughAlias (query : Query) (target : Name) :
    (answer.throughAlias query target).isSettled = true := by
  cases answer with
  | ok records => rfl
  | error error => exact ResolutionError.isLookupWide_forAlias target error

theorem isSettled_of_isLimit (h : answer.isLimit = true) : answer.isSettled = true := by
  cases answer with
  | ok records => rfl
  | error error => exact ResolutionError.isLookupWide_of_isLimit h

theorem addresses_of_isLimit (h : answer.isLimit = true) : answer.addresses = [] := by
  cases answer with
  | ok records => cases h
  | error error => rfl

end Answer

namespace Visit

variable {config : Config} {visit : Visit} {found : Except ResolutionError Verdict}
  {last error : ResolutionError} {servers : List IpAddress} {names : List Name}
  {calls before after : List Call} {call : Call} {answer : Answer} {records : List Record}

/-! ### Servers in turn -/

/-- A server with a settled answer is the last one. -/
theorem TriesServers.of_call (h : visit.TriesServers last servers calls answer)
    (hcalls : calls = before ++ call :: after) :
    ∃ server, call.visit = visit.referral server ∧
      (call.answer.isSettled = true → after = [] ∧ answer = call.answer) := by
  induction h generalizing before with
  | noServers last => simp at hcalls
  | settled hvisit hsettled =>
    cases before with
    | nil =>
      obtain ⟨rfl, rfl⟩ := List.cons.inj hcalls
      exact ⟨_, hvisit, fun _ => ⟨rfl, rfl⟩⟩
    | cons first before => simp at hcalls
  | next hvisit hanswer hbranch hrest ih =>
    cases before with
    | nil =>
      obtain ⟨rfl, rfl⟩ := List.cons.inj hcalls
      refine ⟨_, hvisit, fun hsettled => ?_⟩
      rw [hanswer, Answer.isSettled, hbranch] at hsettled
      cases hsettled
    | cons first before => exact ih (List.cons.inj hcalls).2

/-- A settled answer is that of the last server. -/
theorem TriesServers.of_settled (h : visit.TriesServers last servers calls answer)
    (hlast : last.isLookupWide = false) (hsettled : answer.isSettled = true) :
    ∃ before call server, calls = before ++ [call] ∧ call.visit = visit.referral server ∧
      answer = call.answer := by
  induction h with
  | noServers last => exact absurd hsettled (by simp [Answer.isSettled, hlast])
  | settled hvisit hsettled => exact ⟨[], _, _, rfl, hvisit, rfl⟩
  | next hvisit hfailure hbranch hrest ih =>
    obtain ⟨before, call, server, rfl, hcall⟩ := ih hbranch hsettled
    exact ⟨_ :: before, call, server, rfl, hcall⟩

/-- If no answer is settled, every server was visited, and none has a settled answer. -/
theorem TriesServers.exists_call (h : visit.TriesServers last servers calls answer)
    (hunsettled : answer.isSettled = false) {server : IpAddress} (hserver : server ∈ servers) :
    ∃ before call after, calls = before ++ call :: after ∧ call.visit = visit.referral server ∧
      call.answer.isSettled = false := by
  induction h with
  | noServers last => exact absurd hserver List.not_mem_nil
  | settled hvisit hsettled => exact absurd hsettled (by simp [hunsettled])
  | next hvisit hanswer hbranch hrest ih =>
    rcases List.mem_cons.1 hserver with rfl | hserver
    · refine ⟨[], _, _, rfl, hvisit, ?_⟩
      rw [hanswer]
      exact hbranch
    · obtain ⟨before, call, after, rfl, hcall⟩ := ih hunsettled hserver
      exact ⟨_ :: before, call, after, rfl, hcall⟩

theorem Refers.of_call (h : visit.Refers config servers calls answer)
    (hcalls : calls = before ++ call :: after) :
    ∃ server, call.visit = visit.referral server ∧
      (call.answer.isSettled = true → after = [] ∧ answer = call.answer) := by
  cases h with
  | limit hreferrals => simp at hcalls
  | tries hreferrals htries => exact htries.of_call hcalls

theorem Refers.of_settled (h : visit.Refers config servers calls answer)
    (hsettled : answer.isSettled = true) :
    answer.isLimit = true ∨ ∃ before call server, calls = before ++ [call] ∧
      call.visit = visit.referral server ∧ answer = call.answer := by
  cases h with
  | limit hreferrals => exact .inl rfl
  | tries hreferrals htries => exact .inr (htries.of_settled rfl hsettled)

theorem Refers.exists_call (h : visit.Refers config servers calls answer)
    (hunsettled : answer.isSettled = false) {server : IpAddress} (hserver : server ∈ servers) :
    ∃ before call after, calls = before ++ call :: after ∧ call.visit = visit.referral server ∧
      call.answer.isSettled = false := by
  cases h with
  | limit hreferrals => cases hunsettled
  | tries hreferrals htries => exact htries.exists_call hunsettled hserver

/-! ### Nameservers in turn -/

/-- A limit that is reached in the lookup of a nameserver, and a settled answer of a server, come
last. -/
theorem TriesNameservers.of_call (h : visit.TriesNameservers config last names calls answer)
    (hcalls : calls = before ++ call :: after) :
    (∃ server, call.visit = visit.referral server ∧
        (call.answer.isSettled = true → after = [] ∧ answer = call.answer)) ∨
      ∃ name, call.visit = visit.nameserver config name ∧
        (call.answer.isLimit = true → after = [] ∧ answer = call.answer) := by
  induction h generalizing before with
  | noNames last => simp at hcalls
  | limit hvisit hlimit =>
    cases before with
    | nil =>
      obtain ⟨rfl, rfl⟩ := List.cons.inj hcalls
      exact .inr ⟨_, hvisit, fun _ => ⟨rfl, rfl⟩⟩
    | cons first before => simp at hcalls
  | passedOver hvisit hlimit hnone hrest ih =>
    cases before with
    | nil =>
      obtain ⟨rfl, rfl⟩ := List.cons.inj hcalls
      exact .inr ⟨_, hvisit, fun h => absurd h (by simp [hlimit])⟩
    | cons first before => exact ih (List.cons.inj hcalls).2
  | settled hvisit hsome hrefers hsettled =>
    cases before with
    | nil =>
      obtain ⟨rfl, rfl⟩ := List.cons.inj hcalls
      exact .inr ⟨_, hvisit, fun h => absurd (Answer.addresses_of_isLimit h) hsome⟩
    | cons first before => exact .inl (hrefers.of_call (List.cons.inj hcalls).2)
  | exhausted hvisit hsome hrefers hbranch hrest ih =>
    cases before with
    | nil =>
      obtain ⟨rfl, rfl⟩ := List.cons.inj hcalls
      exact .inr ⟨_, hvisit, fun h => absurd (Answer.addresses_of_isLimit h) hsome⟩
    | cons first before =>
      rcases append_eq_append_cons_iff.1 (List.cons.inj hcalls).2 with
        ⟨between, htried, rfl⟩ | ⟨between, rfl, hmore⟩
      · obtain ⟨server, hserver, hlast⟩ := hrefers.of_call htried
        refine .inl ⟨server, hserver, fun hsettled => ?_⟩
        -- a settled answer would have been that of the referral
        rw [← (hlast hsettled).2, Answer.isSettled, hbranch] at hsettled
        cases hsettled
      · exact ih hmore

/-- A settled answer is that of the last server, unless a limit was reached. -/
theorem TriesNameservers.of_settled (h : visit.TriesNameservers config last names calls answer)
    (hlast : last.isLookupWide = false) (hsettled : answer.isSettled = true) :
    answer.isLimit = true ∨ ∃ before call server, calls = before ++ [call] ∧
      call.visit = visit.referral server ∧ answer = call.answer := by
  induction h with
  | noNames last => exact absurd hsettled (by simp [Answer.isSettled, hlast])
  | limit hvisit hlimit => exact .inl hlimit
  | @passedOver _ _ _ first _ _ hvisit hlimit hnone hrest ih =>
    rcases ih hlast hsettled with hlimit | ⟨before, call, server, rfl, hcall⟩
    · exact .inl hlimit
    · exact .inr ⟨first :: before, call, server, rfl, hcall⟩
  | @settled _ _ _ first _ _ hvisit hsome hrefers _ =>
    rcases hrefers.of_settled hsettled with hlimit | ⟨before, call, server, rfl, hcall⟩
    · exact .inl hlimit
    · exact .inr ⟨first :: before, call, server, rfl, hcall⟩
  | @exhausted _ _ _ _ first tried _ _ hvisit hsome hrefers hbranch hrest ih =>
    rcases ih hbranch hsettled with hlimit | ⟨before, call, server, rfl, hcall⟩
    · exact .inl hlimit
    · exact .inr ⟨first :: (tried ++ before), call, server, by simp, hcall⟩

/-- If no answer is settled, every nameserver was looked up, every server at its addresses was
visited afterwards, and none of them has a settled answer. -/
theorem TriesNameservers.exists_call (h : visit.TriesNameservers config last names calls answer)
    (hunsettled : answer.isSettled = false) {name : Name} (hname : name ∈ names) :
    ∃ before call after, calls = before ++ call :: after ∧
      call.visit = visit.nameserver config name ∧
      ∀ server ∈ call.answer.addresses, ∃ before' call' after', after = before' ++ call' :: after' ∧
        call'.visit = visit.referral server ∧ call'.answer.isSettled = false := by
  induction h with
  | noNames last => exact absurd hname List.not_mem_nil
  | limit hvisit hlimit =>
    exact absurd (Answer.isSettled_of_isLimit hlimit) (by simp [hunsettled])
  | @passedOver _ _ _ first _ _ hvisit hlimit hnone hrest ih =>
    rcases List.mem_cons.1 hname with rfl | hname
    · exact ⟨[], first, _, rfl, hvisit, by simp [hnone]⟩
    · obtain ⟨before, call, after, rfl, hcall⟩ := ih hunsettled hname
      exact ⟨first :: before, call, after, rfl, hcall⟩
  | settled hvisit hsome hrefers hsettled => exact absurd hsettled (by simp [hunsettled])
  | @exhausted _ _ _ _ first tried more _ hvisit hsome hrefers hbranch hrest ih =>
    rcases List.mem_cons.1 hname with rfl | hname
    · refine ⟨[], first, _, rfl, hvisit, fun server hserver => ?_⟩
      obtain ⟨before, call, after, rfl, hcall⟩ := hrefers.exists_call hbranch hserver
      exact ⟨before, call, after ++ more, by simp, hcall⟩
    · obtain ⟨before, call, after, rfl, hcall⟩ := ih hunsettled hname
      exact ⟨first :: (tried ++ before), call, after, by simp, hcall⟩

/-- **A nameserver without addresses is followed by the next one,** if there is one and no limit was
reached.  Otherwise it comes last, and the failure of some branch is the answer. -/
theorem TriesNameservers.next_of_call (h : visit.TriesNameservers config last names calls answer)
    (hlast : last.isLookupWide = false) (hcalls : calls = before ++ call :: after)
    (hnested : call.visit.purpose = .nameserver) (hlimit : call.answer.isLimit = false)
    (hnone : call.answer.addresses = []) :
    ∃ earlier name later, names = earlier ++ name :: later ∧
      call.visit = visit.nameserver config name ∧
      match later with
      | [] => after = [] ∧ answer.isSettled = false
      | next :: _ => ∃ following ∈ after.head?, following.visit = visit.nameserver config next := by
  induction h generalizing before with
  | noNames last => simp at hcalls
  | limit hvisit hlimit' =>
    cases before with
    | nil =>
      obtain ⟨rfl, rfl⟩ := List.cons.inj hcalls
      exact absurd hlimit' (by simp [hlimit])
    | cons first before => simp at hcalls
  | @passedOver _ name _ _ _ _ hvisit hlimit' hnone' hrest ih =>
    cases before with
    | nil =>
      obtain ⟨rfl, rfl⟩ := List.cons.inj hcalls
      refine ⟨[], name, _, rfl, hvisit, ?_⟩
      cases hrest with
      | noNames => exact ⟨rfl, hlast⟩
      | limit hnext => exact ⟨_, rfl, hnext⟩
      | passedOver hnext => exact ⟨_, rfl, hnext⟩
      | settled hnext => exact ⟨_, rfl, hnext⟩
      | exhausted hnext => exact ⟨_, rfl, hnext⟩
    | cons first before =>
      obtain ⟨earlier, found, later, rfl, hfound⟩ := ih hlast (List.cons.inj hcalls).2
      exact ⟨name :: earlier, found, later, rfl, hfound⟩
  | settled hvisit hsome hrefers hsettled =>
    cases before with
    | nil =>
      obtain ⟨rfl, rfl⟩ := List.cons.inj hcalls
      exact absurd hnone hsome
    | cons first before =>
      obtain ⟨server, hserver, -⟩ := hrefers.of_call (List.cons.inj hcalls).2
      rw [hserver] at hnested
      cases hnested
  | @exhausted _ _ name _ _ _ _ _ hvisit hsome hrefers hbranch hrest ih =>
    cases before with
    | nil =>
      obtain ⟨rfl, rfl⟩ := List.cons.inj hcalls
      exact absurd hnone hsome
    | cons first before =>
      rcases append_eq_append_cons_iff.1 (List.cons.inj hcalls).2 with
        ⟨between, htried, -⟩ | ⟨between, rfl, hmore⟩
      · obtain ⟨server, hserver, -⟩ := hrefers.of_call htried
        rw [hserver] at hnested
        cases hnested
      · obtain ⟨earlier, found, later, rfl, hfound⟩ := ih hbranch hmore
        exact ⟨name :: earlier, found, later, rfl, hfound⟩

/-! ### Verdicts -/

/-- **What a call means for the visit that makes it.**  A server with a settled answer, a limit that
is reached in the lookup of a nameserver, and the target of an alias decide the answer. -/
theorem Pursues.of_call (h : visit.Pursues config found calls answer)
    (hcalls : calls = before ++ call :: after) :
    (∃ server, call.visit = visit.referral server ∧
        (call.answer.isSettled = true → after = [] ∧ answer = call.answer)) ∨
      (∃ name, call.visit = visit.nameserver config name ∧
        (call.answer.isLimit = true → after = [] ∧ answer = call.answer)) ∨
      ∃ target, call.visit = visit.aliasTarget config target ∧ after = [] ∧
        answer = call.answer.throughAlias visit.query target := by
  cases h with
  | aliased hvisit =>
    cases before with
    | nil =>
      obtain ⟨rfl, rfl⟩ := List.cons.inj hcalls
      exact .inr (.inr ⟨_, hvisit, rfl, rfl⟩)
    | cons first before => simp at hcalls
  | servers hrefers => exact .inl (hrefers.of_call hcalls)
  | nameservers htries => exact (htries.of_call hcalls).imp_right .inl
  | failed => simp at hcalls
  | final => simp at hcalls
  | refused => simp at hcalls
  | unusable => simp at hcalls
  | deadEnd => simp at hcalls

/-- If the answer is not settled, a call that is not for a nameserver is for a server, and its
answer is not settled either. -/
theorem Pursues.of_call_of_unsettled (h : visit.Pursues config found calls answer)
    (hcalls : calls = before ++ call :: after) (hunsettled : answer.isSettled = false)
    (hpurpose : call.visit.purpose ≠ .nameserver) :
    ∃ server, call.visit = visit.referral server ∧ call.answer.isSettled = false := by
  rcases h.of_call hcalls with ⟨server, hvisit, hlast⟩ | ⟨name, hvisit, -⟩ |
    ⟨target, -, -, hthrough⟩
  · refine ⟨server, hvisit, Bool.eq_false_iff.2 fun hsettled => ?_⟩
    rw [(hlast hsettled).2, hsettled] at hunsettled
    cases hunsettled
  · rw [hvisit] at hpurpose
    exact absurd rfl hpurpose
  · rw [hthrough, Answer.isSettled_throughAlias] at hunsettled
    cases hunsettled

/-- **Where a settled answer comes from.**  Either it was found, or a limit was reached, or it comes
from the last call. -/
theorem Pursues.of_settled (h : visit.Pursues config found calls answer)
    (hsettled : answer.isSettled = true) :
    (calls = [] ∧ ((∃ records, found = .ok (.final records) ∧ answer = .ok records) ∨
        ∃ error, found = .error error ∧ answer = .error error)) ∨
      answer.isLimit = true ∨
      ∃ before call, calls = before ++ [call] ∧
        ((∃ server, call.visit = visit.referral server ∧ answer = call.answer) ∨
          ∃ target, call.visit = visit.aliasTarget config target ∧
            answer = call.answer.throughAlias visit.query target) := by
  cases h with
  | failed error => exact .inl ⟨rfl, .inr ⟨error, rfl, rfl⟩⟩
  | final records => exact .inl ⟨rfl, .inl ⟨records, rfl, rfl⟩⟩
  | @aliased target call hvisit => exact .inr (.inr ⟨[], call, rfl, .inr ⟨target, hvisit, rfl⟩⟩)
  | servers hrefers =>
    rcases hrefers.of_settled hsettled with hlimit | ⟨before, call, server, hcalls, hcall⟩
    · exact .inr (.inl hlimit)
    · exact .inr (.inr ⟨before, call, hcalls, .inl ⟨server, hcall⟩⟩)
  | nameservers htries =>
    rcases htries.of_settled rfl hsettled with hlimit | ⟨before, call, server, hcalls, hcall⟩
    · exact .inr (.inl hlimit)
    · exact .inr (.inr ⟨before, call, hcalls, .inl ⟨server, hcall⟩⟩)
  | refused => cases hsettled
  | unusable => cases hsettled
  | deadEnd => cases hsettled

/-- After a nameserver without addresses the next one is looked up. -/
theorem Pursues.next_of_call (h : visit.Pursues config found calls answer)
    (hcalls : calls = before ++ call :: after) (hnested : call.visit.purpose = .nameserver)
    (hlimit : call.answer.isLimit = false) (hnone : call.answer.addresses = []) :
    ∃ earlier name later, found = .ok (.nameservers (earlier ++ name :: later)) ∧
      call.visit = visit.nameserver config name ∧
      match later with
      | [] => after = [] ∧ answer.isSettled = false
      | next :: _ => ∃ following ∈ after.head?, following.visit = visit.nameserver config next := by
  cases h with
  | nameservers htries =>
    obtain ⟨earlier, name, later, rfl, hcall⟩ :=
      htries.next_of_call rfl hcalls hnested hlimit hnone
    exact ⟨earlier, name, later, rfl, hcall⟩
  | servers hrefers =>
    obtain ⟨server, hvisit, -⟩ := hrefers.of_call hcalls
    rw [hvisit] at hnested
    cases hnested
  | aliased hvisit =>
    have hmem : call ∈ before ++ call :: after := by simp
    rw [← hcalls] at hmem
    rw [← List.mem_singleton.1 hmem] at hvisit
    rw [hvisit] at hnested
    cases hnested
  | failed => simp at hcalls
  | final => simp at hcalls
  | refused => simp at hcalls
  | unusable => simp at hcalls
  | deadEnd => simp at hcalls

end Visit

end IterativeDns
