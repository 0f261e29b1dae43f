import IterativeDns.Proofs.Course
import IterativeDns.Proofs.Traversal

/-!
# What a lookup is composed of

All parts of a lookup are put together in few ways: they read what is known, ask a server and learn
its response, note that visits begin and end, and do one thing after the other.  This file says so
once, so that a property of lookups needs one case for each of these ways.

* `Lookup.Composed` — a part of a lookup is put together in these ways, and
  `Lookup.composed_resolve` — every lookup is.
* `Lookup.Composed.keeps` — what questions and turns keep, everything that is composed of them
  keeps.
-/

namespace IterativeDns.Lookup

/-- A part of a lookup is composed of questions to servers, of looks at what is known, and of turns.
Who is told about the work does not matter for it. -/
inductive Composed (config : Config) : Lookup Answer → Prop where
  /-- There is an answer. -/
  | answer (answer : Answer) : Composed config (Pure.pure answer)
  /-- One part comes after the other. -/
  | andThen {program : Lookup Answer} {rest : Answer → Lookup Answer}
      (hprogram : Composed config program) (hrest : ∀ answer, Composed config (rest answer)) :
      Composed config (program >>= rest)
  /-- Something is looked up in the memory. -/
  | reads {rest : Memory → Lookup Answer}
      (hsame : ∀ memory tracer, rest { memory with tracer } = rest memory)
      (hrest : ∀ memory, Composed config (rest memory)) : Composed config (MonadState.get >>= rest)
  /-- A server is asked, and its response is learned. -/
  | asks (query : Query) (server : IpAddress) {rest : Message → Lookup Answer}
      (hrest : ∀ message, Composed config (rest message)) :
      Composed config (do
        match ← ask config query server with
        | .error error => return .error error
        | .ok message =>
          modify (·.learn message)
          rest message)
  /-- A visit begins and ends. -/
  | visits (visit : Visit) {body : Lookup Answer} (hbody : Composed config body) :
      Composed config (visiting visit body)

section Parts

variable {config : Config} {nested : Purpose → Query → Lookup Answer}
  {onward : Option (IpAddress → Lookup Answer)} {query : Query}

/-! ## Following up -/

theorem composed_tryEach {visit : IpAddress → Lookup Answer}
    (hvisit : ∀ server, Composed config (visit server)) (last : ResolutionError)
    (servers : List IpAddress) : Composed config (tryEach visit last servers) := by
  induction servers generalizing last with
  | nil => exact .answer _
  | cons server servers ih =>
    refine .andThen (hvisit server) fun answer => ?_
    cases answer with
    | ok records => exact .answer _
    | error error =>
      show Composed config (if error.isLookupWide = true then _ else _)
      split
      · exact .answer _
      · exact ih error

theorem composed_tryServers
    (honward : ∀ visit ∈ onward, ∀ server, Composed config (visit server))
    (servers : List IpAddress) : Composed config (tryServers config onward servers) := by
  cases onward with
  | none => exact .answer _
  | some visit => exact composed_tryEach (honward visit rfl) _ servers

theorem composed_tryNameservers (hnested : ∀ purpose query, Composed config (nested purpose query))
    (honward : ∀ visit ∈ onward, ∀ server, Composed config (visit server))
    (last : ResolutionError) (names : List Name) :
    Composed config (tryNameservers config nested onward last names) := by
  induction names generalizing last with
  | nil => exact .answer _
  | cons name names ih =>
    refine .andThen (hnested _ _) fun answer => ?_
    cases answer with
    | error error =>
      show Composed config (if error.isLimit = true then _ else _)
      split
      · exact .answer _
      · exact ih last
    | ok records =>
      dsimp only
      split
      · exact ih last
      · refine .andThen (composed_tryServers honward _) fun answer => ?_
        cases answer with
        | ok records => exact .answer _
        | error error =>
          show Composed config (if error.isLookupWide = true then _ else _)
          split
          · exact .answer _
          · exact ih error

theorem composed_chase (hnested : ∀ purpose query, Composed config (nested purpose query))
    (target : Name) : Composed config (chase nested query target) := by
  refine .andThen (hnested _ _) fun answer => ?_
  cases answer with
  | ok records => exact .answer _
  | error error => exact .answer _

variable (hnested : ∀ purpose query, Composed config (nested purpose query))
  (honward : ∀ visit ∈ onward, ∀ server, Composed config (visit server))

include hnested honward

theorem composed_act (server : IpAddress) (verdict : Verdict) :
    Composed config (act config nested onward query server verdict) := by
  cases verdict with
  | final records => exact .answer _
  | refused => exact .answer _
  | aliased target => exact composed_chase hnested target
  | unusable =>
    refine .reads (fun _ _ => rfl) fun memory => ?_
    split
    · exact composed_chase hnested _
    · exact .answer _
  | servers addresses => exact composed_tryServers honward addresses
  | nameservers names => exact composed_tryNameservers hnested honward _ names
  | deadEnd => exact .answer _

theorem composed_resolveAt (server : IpAddress) :
    Composed config (resolveAt config nested onward query server) := by
  refine .reads (fun _ _ => rfl) fun memory => ?_
  split
  · refine .reads (fun _ _ => rfl) fun memory => ?_
    split
    · exact composed_chase hnested _
    · exact .asks query server fun message => composed_act hnested honward server _
  · exact .answer _

end Parts

/-! ## The two recursions -/

variable {config : Config}

/-- By induction on the referrals that are left. -/
theorem composed_descend {nested : Purpose → Query → Lookup Answer}
    (hnested : ∀ purpose query, Composed config (nested purpose query)) (depth : Nat)
    (query : Query) (left : Nat) (purpose : Purpose) (server : IpAddress) :
    Composed config (descend config nested depth query left purpose server) := by
  induction left generalizing purpose server with
  | zero =>
    refine .visits _ (composed_resolveAt hnested ?_ server)
    intro visit hvisit
    cases hvisit
  | succ left ih =>
    refine .visits _ (composed_resolveAt hnested ?_ server)
    intro visit hvisit
    cases hvisit
    exact ih .referral

/-- **Every lookup is composed,** by induction on the levels that are left. -/
theorem composed_resolve (levels : Nat) (purpose : Purpose) (query : Query) :
    Composed config (resolve config levels purpose query) := by
  induction levels generalizing purpose query with
  | zero => exact .visits _ (.answer _)
  | succ left ih => exact composed_descend ih _ _ _ _ _

/-! ## What is kept -/

/-- **What questions and turns keep, everything that is composed of them keeps.** -/
theorem Composed.keeps {holds : Memory → History → Prop} {program : Lookup Answer}
    (h : Composed config program)
    (hturned : ∀ memory past occurrence, occurrence.isTurn = true → holds memory past →
      holds memory (past ++ [occurrence]))
    (hasked : ∀ query server memory past, holds memory past →
      (ask config query server).Ensures memory past fun result memory' past' =>
        match result with
        | .error _ => holds memory' past'
        | .ok message => holds (memory'.learn message) past') : Keeps holds program := by
  induction h with
  | answer answer => exact Keeps.pure answer
  | andThen hprogram hrest ih ihrest => exact ih.bind ihrest
  | reads hsame hrest ih => exact Keeps.get.bind fun memory => ih _
  | asks query server hrest ih =>
    intro memory past hholds
    refine (hasked query server memory past hholds).bind fun result memory' past' hafter => ?_
    cases result with
    | error error => exact Ensures.pure hafter
    | ok message => exact Ensures.modify_bind (ih message _ _ hafter)
  | visits visit hbody ih =>
    intro memory past hholds
    have hbegun := hturned memory past (.entered visit) rfl hholds
    refine Ensures.note_bind ((ih memory _ hbegun).bind fun answer memory' past' hended => ?_)
    exact Ensures.note_bind (Ensures.pure (hturned memory' past' (.left visit answer) rfl hended))

end IterativeDns.Lookup
