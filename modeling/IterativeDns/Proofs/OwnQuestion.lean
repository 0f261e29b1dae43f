import IterativeDns.Proofs.Evidence
import IterativeDns.Proofs.Reading
import IterativeDns.Proofs.Replies
import IterativeDns.Resolution.Script

/-!
# Answers to one's own question

A resolver asks a query, and the answer comes back with the name just as it was sent.  Whether the
resolver takes it for an answer depends on the spelling of the name: what comes back is read in the
canonical spelling, and names are compared as texts.

* `Name.normalized_canonical` — a name in printable characters and without backslashes counts as the
  same in its canonical spelling.
* `Query.OwnAnswer` — a datagram answers a query with the name just as it was sent;
  `Query.OwnAnswer.name_eq` says how that name is read.
* `Resolver.lookup_of_ownAnswer` — **an answer to one's own question is taken, and known from then
  on, if the name counts as the same in its canonical spelling;** otherwise it is of no use.
-/

namespace IterativeDns

/-! ## Names that come back -/

theorem Text.mem_joinWith {separator c : Char} {piece : List Char} {pieces : List (List Char)}
    (hpiece : piece ∈ pieces) (hc : c ∈ piece) : c ∈ joinWith separator pieces := by
  induction pieces with
  | nil => exact absurd hpiece List.not_mem_nil
  | cons first pieces ih =>
    cases pieces with
    | nil =>
      rw [List.mem_singleton.1 hpiece] at hc
      exact hc
    | cons next pieces =>
      rw [joinWith, List.mem_append]
      · rcases List.mem_cons.1 hpiece with rfl | hpiece
        · exact .inl hc
        · exact .inr (List.mem_cons_of_mem _ (ih hpiece))
      · exact List.cons_ne_nil next pieces

namespace Label

/-- A character that stands for the octet of its own code. -/
structure IsPlainChar (c : Char) : Prop where
  /-- It is neither a control character nor a blank. -/
  lower : 0x21 ≤ c.toNat
  /-- It belongs to ASCII. -/
  upper : c.toNat ≤ 0x7e
  /-- It is not the backslash. -/
  ne_backslash : c ≠ '\\'

instance (c : Char) : Decidable (IsPlainChar c) :=
  decidable_of_iff (0x21 ≤ c.toNat ∧ c.toNat ≤ 0x7e ∧ c ≠ '\\')
    ⟨fun h => ⟨h.1, h.2.1, h.2.2⟩, fun h => ⟨h.lower, h.upper, h.ne_backslash⟩⟩

/-- A plain character other than the dot is written as itself and read as its own code. -/
theorem IsPlainChar.exists_octet {c : Char} (h : IsPlainChar c) (hdot : c ≠ '.') :
    ∃ octet : UInt8, isPlain octet = true ∧ escapeOctet octet = [c] := by
  have key : ∀ n : Fin 0x7f, 0x21 ≤ n.val → Char.ofNat n ≠ '\\' → Char.ofNat n ≠ '.' →
      isPlain (UInt8.ofNat n) = true ∧ escapeOctet (UInt8.ofNat n) = [Char.ofNat n] := by
    decide +kernel
  have hcode := key ⟨c.toNat, Nat.lt_succ_of_le h.upper⟩ h.lower
  simp only [Char.ofNat_toNat] at hcode
  exact ⟨_, hcode h.ne_backslash hdot⟩

/-- A label in plain characters is written as itself. -/
theorem escape_octetsOfText {cs : List Char} (h : ∀ c ∈ cs, IsPlainChar c ∧ c ≠ '.') :
    escape (octetsOfText cs) = cs := by
  induction cs with
  | nil => rfl
  | cons c cs ih =>
    obtain ⟨hplain, hdot⟩ := h c List.mem_cons_self
    obtain ⟨octet, hoctet, hescape⟩ := hplain.exists_octet hdot
    obtain ⟨hutf8, hne⟩ := utf8_escapeOctet_of_plain octet hoctet
    have hrest := ih fun other hmem => h other (List.mem_cons_of_mem c hmem)
    have hfirst : String.utf8EncodeChar c = [octet] := by
      rw [hescape] at hutf8
      simpa [utf8] using hutf8
    have hread : octetsOfText (c :: cs) = octet :: octetsOfText cs := by
      rw [octetsOfText, utf8, List.flatMap_cons, hfirst, List.singleton_append,
        unescape_cons_of_ne hne]
      rfl
    rw [hread, escape, List.flatMap_cons, hescape, ← escape, hrest]
    rfl

end Label

namespace Name

/-- **Plain names count as the same in their canonical spelling.** -/
theorem normalized_canonical {name : Name} (hvalid : name.IsValid)
    (h : ∀ c ∈ name.text.toList, Label.IsPlainChar c) :
    name.canonical.normalized = name.normalized := by
  have htrimmed : ∀ c ∈ dropFinalDot name.text.toList, Label.IsPlainChar c := by
    intro c hmem
    unfold dropFinalDot at hmem
    split at hmem
    · exact h c ((List.dropLast_sublist _).subset hmem)
    · exact h c hmem
  have hpieces : ∀ piece ∈ Text.splitAtChar '.' (dropFinalDot name.text.toList),
      (Label.escape ∘ Label.octetsOfText) piece = piece := by
    intro piece hpiece
    refine Label.escape_octetsOfText fun c hmem => ?_
    have hdot := Text.not_separator_of_mem_splitWhere hpiece c hmem
    have hjoined : c ∈ Text.joinWith '.' _ := Text.mem_joinWith hpiece hmem
    rw [Text.joinWith_splitAtChar] at hjoined
    exact ⟨htrimmed c hjoined, by simpa using hdot⟩
  have htext : name.canonical.text.toList = dropFinalDot name.text.toList := by
    rw [canonical, String.toList_ofList, List.map_congr_left hpieces, List.map_id',
      Text.joinWith_splitAtChar]
  have hlast : dropFinalDot name.canonical.text.toList = name.canonical.text.toList := by
    rw [hvalid.canonical_eq]
    exact dropFinalDot_ofRawLabels fun label hmem =>
      ⟨IsValid.length_label_pos hmem, hvalid.length_label_le label hmem⟩
  rw [normalized, hlast, htext]
  rfl

end Name

/-! ## Own answers -/

/-- Reads a message up to its answers, and yields the octets from there on. -/
def Message.readToAnswers : Decoder Octets := do
  let header ← Header.decode
  let _ ← decodeQuestion header.questions
  return (← get).rest

/-- A datagram answers a request for a query with one record, whose owner is written with the very
octets with which the name of the query is. -/
structure Query.OwnAnswer (query : Query) (request : Request) (payload : Octets)
    (message : Message) (record : Record) : Prop where
  /-- The datagram holds the message. -/
  decoded : Message.decode payload = .ok message
  /-- The message is a response. -/
  isResponse : message.header.flags.isResponse = true
  /-- It is the response to the request. -/
  id : message.id = request.id
  /-- It comes from an authority. -/
  isAuthoritative : message.isAuthoritative = true
  /-- All went well. -/
  response : message.response = .noError
  /-- It holds one answer. -/
  answers : message.answers = [record]
  /-- The answer is of the queried type. -/
  type : record.type = query.type
  /-- The owner of the answer is written as the name of the query is. -/
  owner : ∃ octets, Decoder.run Message.readToAnswers payload = .ok octets ∧
    query.name.encode <+: octets

namespace Query.OwnAnswer

variable {query : Query} {request : Request} {payload : Octets} {message : Message}
  {record : Record} {config : Config}

theorem accept_eq_ok (h : query.OwnAnswer request payload message record) :
    Message.accept request.id payload = .ok message :=
  Message.accept_eq_ok.2 ⟨h.decoded, h.isResponse, h.id⟩

/-- **The name comes back in its canonical spelling.** -/
theorem name_eq (h : query.OwnAnswer request payload message record)
    (hname : query.name.IsValid) : record.name = query.name.canonical := by
  obtain ⟨after, hread⟩ := Message.read_of_decode h.decoded
  obtain ⟨-, asked, answered, authorized, -, hheader, hquestion, hanswers, -⟩ :=
    Message.read_eq_ok.1 hread
  obtain ⟨octets, hoctets, hahead⟩ := h.owner
  -- the answers begin where the owner is written
  have hrest : Message.readToAnswers (.ofOctets payload) = .ok answered.rest answered := by
    simp only [Message.readToAnswers, Decoder.bind_eq_ok, Decoder.pure_eq_ok, Decoder.get_eq_ok]
    exact ⟨_, asked, hheader, _, answered, hquestion, _, _, ⟨rfl, rfl⟩, rfl, rfl⟩
  rw [Decoder.run, hrest] at hoctets
  cases hoctets
  -- and the first of them is read from there
  rw [h.answers] at hanswers
  cases hcount : message.header.answers.toNat with
  | zero =>
    rw [hcount] at hanswers
    obtain ⟨hnil, -⟩ := Decoder.pure_eq_ok.1 hanswers
    cases hnil
  | succ count =>
    rw [hcount] at hanswers
    obtain ⟨first, _, hfirst, hanswers⟩ := Decoder.bind_eq_ok.1 hanswers
    obtain ⟨_, _, -, hanswers⟩ := Decoder.bind_eq_ok.1 hanswers
    obtain ⟨heq, -⟩ := Decoder.pure_eq_ok.1 hanswers
    cases heq
    obtain ⟨owner, _, _, _, _, _, hdecode, -⟩ := Record.decode_eq_ok.1 hfirst
    have hsame := hdecode.symm.trans (Name.reads_encode hname answered hahead)
    rw [EStateM.Result.ok.injEq] at hsame
    exact hsame.1

/-! ## What it means -/

theorem verdict_eq_answerVerdict (h : query.OwnAnswer request payload message record) :
    message.verdict config query = message.answerVerdict config query := by
  rw [Message.verdict, h.response, h.isAuthoritative]
  rfl

/-- The answer is final if its owner counts as the name of the query. -/
theorem verdict_eq_final (h : query.OwnAnswer request payload message record)
    (htype : query.type ≠ .any) (hsame : config.sameName record.name query.name = true) :
    message.verdict config query = .final [record] := by
  have hdirect : message.direct config query = [record] := by
    simp [Message.direct, h.answers, h.type, hsame]
  rw [h.verdict_eq_answerVerdict, Message.answerVerdict, hdirect, if_neg (by simp [h.answers]),
    if_neg htype]

/-- Otherwise it is of no use. -/
theorem verdict_eq_unusable (h : query.OwnAnswer request payload message record)
    (htype : query.type ≠ .any) (hother : config.sameName record.name query.name = false) :
    message.verdict config query = .unusable := by
  have hdirect : message.direct config query = [] := by
    simp [Message.direct, h.answers, hother]
  have halias : message.alias? config query = none := by
    simp [Message.alias?, h.answers, hother]
  rw [h.verdict_eq_answerVerdict, Message.answerVerdict, hdirect, halias,
    if_neg (by simp [h.answers]), if_neg htype]

end Query.OwnAnswer

/-! ## What is known afterwards -/

namespace Cache

variable {cache : Cache} {record : Record} {now : Instant}

/-- A record that is stored at a moment stays so when others are stored at the same moment. -/
theorem mem_insertAll_of_mem (hdistinct : (cache.entries.map (·.record)).Nodup)
    (records : List Record) (hmem : ⟨record, now⟩ ∈ cache.entries) :
    ⟨record, now⟩ ∈ (cache.insertAll records now).entries := by
  induction records generalizing cache with
  | nil => exact hmem
  | cons first records ih =>
    have hfirst : ⟨record, now⟩ ∈ (cache.insert first now).entries := by
      refine (mem_store hdistinct).2 ?_
      by_cases hsame : record = first
      · exact .inl (by rw [hsame])
      · exact .inr ⟨hmem, hsame⟩
    exact ih (nodup_store hdistinct) hfirst

/-- All records are stored. -/
theorem mem_insertAll (hdistinct : (cache.entries.map (·.record)).Nodup) {records : List Record}
    (hmem : record ∈ records) : ⟨record, now⟩ ∈ (cache.insertAll records now).entries := by
  induction records generalizing cache with
  | nil => exact absurd hmem List.not_mem_nil
  | cons first records ih =>
    rcases List.mem_cons.1 hmem with rfl | hmem
    · exact mem_insertAll_of_mem (nodup_store hdistinct) records
        ((mem_store hdistinct).2 (.inl rfl))
    · exact ih (nodup_store hdistinct) hmem

end Cache

namespace Memory

variable {memory : Memory} {config : Config} {query : Query} {message : Message} {record : Record}

theorem known_eq_nil (hempty : memory.cache = .empty config.normalizeNames) (query : Query) :
    memory.known query = [] := by
  rw [known, hempty]
  rfl

theorem normalizeNames_learn (hempty : memory.cache = .empty config.normalizeNames)
    (message : Message) :
    (memory.learn message).cache.normalizeNames = config.normalizeNames := by
  rw [learn, Cache.normalizeNames_insertAll, hempty]
  rfl

/-- A record that was just learned is known, if it has any time to live. -/
theorem mem_known_learn (hempty : memory.cache = .empty config.normalizeNames)
    (hmem : record ∈ message.records) (htype : record.type = query.type)
    (hsame : config.sameName record.name query.name = true) (httl : 0 < record.ttl) :
    record ∈ (memory.learn message).known query := by
  have hkey : (memory.learn message).cache.key record.query =
      (memory.learn message).cache.key query :=
    (Cache.key_eq_key_iff (normalizeNames_learn hempty message)).2 ⟨hsame, htype⟩
  have hdistinct : (memory.cache.entries.map (·.record)).Nodup := by
    rw [hempty]
    exact List.nodup_nil
  have hlive : record.isExpired memory.now memory.now = false := Record.isExpired_self httl _
  have hstored : ⟨record, memory.now⟩ ∈ (memory.learn message).cache.entries :=
    Cache.mem_insertAll hdistinct hmem
  exact Cache.mem_lookup.2 ⟨_, hstored, rfl, hkey, hlive⟩

/-- A record of another name is no alias for the name of the query. -/
theorem knownAlias?_learn_eq_none (hempty : memory.cache = .empty config.normalizeNames)
    (hrecords : message.records = [record])
    (hother : config.sameName record.name query.name = false) :
    (memory.learn message).knownAlias? query = none := by
  have hnothing : (memory.learn message).known { query with type := .cname } = [] := by
    refine List.eq_nil_iff_forall_not_mem.2 fun found hmem => ?_
    obtain ⟨entry, hentry, rfl, hkey, -⟩ := Cache.mem_lookup.1 hmem
    have hsame := ((Cache.key_eq_key_iff (normalizeNames_learn hempty message)).1 hkey).1
    rcases Cache.mem_of_mem_insertAll hentry with hentry | ⟨hentry, -⟩
    · rw [hempty] at hentry
      exact absurd hentry List.not_mem_nil
    · rw [hrecords, List.mem_singleton] at hentry
      rw [hentry] at hsame
      cases hsame.symm.trans hother
  rw [knownAlias?, hnothing]
  simp

end Memory

/-! ## Lookups -/

namespace Lookup

variable {config : Config} {memory : Memory} {query : Query} {request : Request}
  {payload : Octets} {message : Message} {record : Record}

/-- What holds after a lookup to which an own answer is the first reply. -/
def Echoed (config : Config) (query : Query) (request : Request) (payload : Octets)
    (message : Message) (record : Record) (answer : Answer) (memory : Memory) (past : History) :
    Prop :=
  past.replies.head? = some (request, payload) →
    (config.sameName record.name query.name = true →
      answer = .ok [record] ∧ (0 < record.ttl → record ∈ memory.known query)) ∧
    (config.sameName record.name query.name = false → message.records = [record] →
      answer = .error .noUsableAnswer)

theorem settled_echoed : Settled (Echoed config query request payload message record) where
  noted step h := by
    intro hhead
    rw [History.replies_append, History.replies_noted, List.append_nil] at hhead
    exact h hhead
  congr hcache hnow h := by
    intro hhead
    rw [Memory.known, hcache, hnow]
    exact h hhead

/-- What a lookup does with an own answer that was learned. -/
theorem ensures_act_of_ownAnswer (hempty : memory.cache = .empty config.normalizeNames)
    (htype : query.type ≠ .any) (h : query.OwnAnswer request payload message record)
    (nested : Purpose → Query → Lookup Answer) (onward : Option (IpAddress → Lookup Answer))
    (server : IpAddress) (past : History) :
    (act config nested onward query server (message.verdict config query)).Ensures
      (memory.learn message) past (Echoed config query request payload message record) := by
  cases hname : config.sameName record.name query.name with
  | true =>
    rw [h.verdict_eq_final htype hname]
    refine Ensures.pure fun _ => ⟨fun _ => ⟨rfl, fun httl => ?_⟩, fun hother => ?_⟩
    · have hmem : record ∈ message.records :=
        Message.mem_records_of_mem_answers (by simp [h.answers])
      exact Memory.mem_known_learn hempty hmem h.type hname httl
    · cases hname.symm.trans hother
  | false =>
    rw [h.verdict_eq_unusable htype hname]
    refine Ensures.get_bind ?_
    by_cases hrecords : message.records = [record]
    · rw [Memory.knownAlias?_learn_eq_none hempty hrecords hname]
      refine Ensures.pure fun _ => ⟨fun hsame => ?_, fun _ _ => rfl⟩
      cases hname.symm.trans hsame
    · -- another record may be an alias, and nothing is said of what it leads to
      refine Ensures.extends_past.mono fun _ _ _ _ _ => ⟨fun hsame => ?_, fun _ honly => ?_⟩
      · cases hname.symm.trans hsame
      · exact absurd honly hrecords

theorem ensures_whole_of_ownAnswer (hempty : memory.cache = .empty config.normalizeNames)
    (htype : query.type ≠ .any) (h : query.OwnAnswer request payload message record) :
    (whole config query).Ensures memory []
      (Echoed config query request payload message record) := by
  refine settled_echoed.ensures_whole fun nested onward step => Ensures.get_bind ?_
  have hunknown : memory.knownAlias? query = none := by
    rw [Memory.knownAlias?, Memory.known_eq_nil hempty]
    simp
  rw [Memory.known_eq_nil hempty]
  refine Ensures.get_bind ?_
  rw [hunknown]
  refine (replies_ask query config.rootServer).bind ?_
  rintro result memory' past' ⟨hcache, hasked⟩
  rw [List.nil_append, History.replies_noted] at hasked
  rcases hasked with ⟨hreplies, rfl⟩ | ⟨request', payload', hreplies, rfl⟩
  · refine Ensures.pure fun hhead => ?_
    rw [hreplies] at hhead
    cases hhead
  · by_cases hsame : (request', payload') = (request, payload)
    · cases hsame
      rw [h.accept_eq_ok]
      exact Ensures.modify_bind
        (ensures_act_of_ownAnswer (hcache.trans hempty) htype h nested onward _ past')
    · -- what comes first stays the first
      refine Ensures.extends_past.mono fun _ _ past'' hpast hhead => ?_
      have hfirst : past'.replies.head? = some (request', payload') := by
        rw [hreplies]
        rfl
      have hother := History.head?_replies_of_prefix hpast hfirst
      exact absurd (Option.some.inj (hother.symm.trans hhead)) hsame

end Lookup

/-- **An answer to one's own question.**  A resolver that has seen nothing looks up one type of
records for a name that was parsed, and the first datagram that comes back answers the query with
one record, whose owner is written as the name was.  If the name counts as the same in its canonical
spelling, the lookup yields that record; and if the record has any time to live, a second lookup at
the same moment yields it too, and nobody is asked.  If the name does not count as the same, and the
message holds no other record, the answer is of no use. -/
theorem Resolver.lookup_of_ownAnswer {σ : Type} (resolver : Resolver) (query : Query)
    (network : Network σ) (state : σ) (text : String) (request : Request) (payload : Octets)
    (message : Message) (record : Record)
    (hnormalize : resolver.config.normalizeNames = true)
    (hempty : resolver.memory.cache = .empty true)
    (hname : Name.parse text = .ok query.name) (htype : query.type ≠ .any)
    (hreply : ((resolver.lookup query).hold network state).transcript.history.replies.head? =
      some (request, payload))
    (hanswer : query.OwnAnswer request payload message record) :
    let first := (resolver.lookup query).hold network state
    let second := (first.value.2.lookup query).hold network first.network
    (query.name.canonical.normalized = query.name.normalized →
      first.value.1 = .ok [record] ∧
      (0 < record.ttl → (∃ records, second.value.1 = .ok records ∧ record ∈ records) ∧
        ∀ occurrence ∈ second.transcript.history, occurrence.isExchange = false)) ∧
    (query.name.canonical.normalized ≠ query.name.normalized → message.records = [record] →
      first.value.1 = .error .noUsableAnswer) := by
  intro first second
  have hcache : resolver.memory.cache = .empty resolver.config.normalizeNames := by
    rw [hnormalize, hempty]
  have hechoed := of_ensures (Lookup.ensures_whole_of_ownAnswer hcache htype hanswer) network state
  obtain ⟨htaken, huseless⟩ := hechoed hreply
  have hcanonical := hanswer.name_eq (Name.isValid_of_parse hname)
  have hsame : resolver.config.sameName record.name query.name =
      (query.name.canonical.normalized == query.name.normalized) := by
    rw [Config.sameName, hnormalize, if_pos rfl, hcanonical]
  rw [hsame] at htaken huseless
  constructor
  · intro hspelled
    obtain ⟨hfirst, hknown⟩ := htaken (beq_iff_eq.2 hspelled)
    refine ⟨hfirst, fun httl => ?_⟩
    have hmem := hknown httl
    have hagain : (Lookup.whole first.value.2.config query).Ensures first.value.2.memory [] _ :=
      Lookup.ensures_whole_of_known (List.ne_nil_of_mem hmem)
    obtain ⟨hsecond, hnobody⟩ := of_ensures hagain network first.network
    exact ⟨⟨_, hsecond, hmem⟩, hnobody⟩
  · intro hspelled honly
    exact huseless (beq_eq_false_iff_ne.2 hspelled) honly

/-- A root server that knows one address for a name, which it spells as the query does. -/
def ownScript (name : Name) : Script where
  rules := [⟨.v4 ⟨198, 41, 0, 4⟩, none, none,
    [.response true (·.addAnswer ⟨name, .a, internetClass, 60, .a ⟨192, 0, 2, 1⟩⟩)]⟩]
  nextId := 7

/-- A query with capital letters and a dot at the end. -/
def ownQuery : Query := ⟨⟨"WWW.example.com."⟩, .a⟩

/-- The record that answers the query. -/
def ownRecord : Record := ⟨⟨"WWW.example.com"⟩, .a, internetClass, 60, .a ⟨192, 0, 2, 1⟩⟩

/-- The response with the record. -/
def ownResponse : Message where
  header := ⟨7, ⟨0x8400⟩, 1, 1, 0, 0⟩
  question := some ⟨⟨"WWW.example.com"⟩, .a, internetClass⟩
  answers := [ownRecord]
  authorities := []
  additionals := []

/-- Capital letters and a dot at the end do not matter. -/
theorem Resolver.lookup_of_ownAnswer_www :
    let first :=
      ((Resolver.ofConfig {}).lookup ownQuery).hold Script.network (ownScript ownQuery.name)
    let second := (first.value.2.lookup ownQuery).hold Script.network first.network
    first.value.1 = .ok [ownRecord] ∧
      (∃ records, second.value.1 = .ok records ∧ ownRecord ∈ records) ∧
      ∀ occurrence ∈ second.transcript.history, occurrence.isExchange = false := by
  have hname : Name.parse "WWW.example.com." = .ok ownQuery.name :=
    eq_ok_of_toOption (by decide +kernel)
  have hall : (ownQuery.name.text.toList.all fun c => decide (Label.IsPlainChar c)) = true := by
    decide +kernel
  have hplain : ∀ c ∈ ownQuery.name.text.toList, Label.IsPlainChar c := fun c hmem =>
    of_decide_eq_true (List.all_eq_true.1 hall c hmem)
  have hspelled := Name.normalized_canonical (Name.isValid_of_parse hname) hplain
  have hreply : (((Resolver.ofConfig {}).lookup ownQuery).hold Script.network
      (ownScript ownQuery.name)).transcript.history.replies.head? =
        some (Config.request {} (.v4 ⟨198, 41, 0, 4⟩) (Message.ofQuery 7 ownQuery).encode,
          ownResponse.encode) := by
    decide +kernel
  have hanswer : ownQuery.OwnAnswer
      (Config.request {} (.v4 ⟨198, 41, 0, 4⟩) (Message.ofQuery 7 ownQuery).encode)
      ownResponse.encode ownResponse ownRecord :=
    ⟨eq_ok_of_toOption (by decide +kernel), by decide, by decide +kernel, by decide, by decide, rfl,
      rfl, ownResponse.encode.drop 33, eq_ok_of_toOption (by decide +kernel), by decide +kernel⟩
  obtain ⟨htaken, -⟩ := lookup_of_ownAnswer (.ofConfig {}) ownQuery Script.network
    (ownScript ownQuery.name) _ _ _ ownResponse ownRecord rfl rfl hname (by decide) hreply hanswer
  obtain ⟨hfirst, hagain⟩ := htaken hspelled
  exact ⟨hfirst, hagain (by decide)⟩

/-- A name that is not spelled canonically is not taken for itself. -/
theorem Resolver.lookup_ownScript_cafe :
    let name : Name := ⟨"café.example"⟩
    let lookup := (Resolver.ofConfig {}).lookup ⟨name, .a⟩
    (Name.parse name.text).toOption = some name ∧
      (Decoder.run Name.decode name.encode).toOption.map Name.normalized ≠
        some name.normalized ∧
      (lookup.hold Script.network (ownScript name)).value.1 = .error .noUsableAnswer := by
  decide +kernel

end IterativeDns
