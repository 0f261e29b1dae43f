import IterativeDns.Proofs.Outcomes

/-!
# Ways through a lookup

A lookup tries servers and nameservers in turn, gives up some of them and passes on the answer of
another.  What is known of each attempt is known of all of them together, provided that it survives
giving up and going on.  This file says so once and for all.

* `Lookup.Satisfies` — what holds before a part of a lookup and what holds after it; `Lookup.Keeps`
  if it is the same.
* `Lookup.Carries` — what holds after an attempt survives giving up and going on, and
  `Lookup.CarriesNotes` — it survives taking notes too.
* `Lookup.Carries.tryEach`, `Lookup.Carries.tryNameservers`, `Lookup.CarriesNotes.descend` — the
  ways in which attempts are put together, down to the recursion over referrals.
* `Lookup.Keeps.resolveAt` — what its parts keep, a visit keeps.
-/

namespace IterativeDns.Lookup

variable {α β : Type} {holds pre : Memory → History → Prop} {memory : Memory} {past : History}

/-! ## Before and after -/

/-- Whenever `pre` holds of a memory and a history, `post` holds after the program, whatever
happens: of the history from before, and of the value, the memory and the history after it. -/
def Satisfies (pre : Memory → History → Prop) (post : History → α → Memory → History → Prop)
    (program : Lookup α) : Prop :=
  ∀ memory past, pre memory past → program.Ensures memory past (post past)

/-- What holds before a part of a lookup holds after it. -/
def Keeps (holds : Memory → History → Prop) (program : Lookup α) : Prop :=
  Satisfies holds (fun _ _ memory' past' => holds memory' past') program

theorem Keeps.pure (value : α) : Keeps holds (Pure.pure value : Lookup α) :=
  fun _ _ h => Ensures.pure h

theorem Keeps.bind {program : Lookup α} {rest : α → Lookup β} (h : Keeps holds program)
    (hrest : ∀ value, Keeps holds (rest value)) : Keeps holds (program >>= rest) :=
  fun memory past hholds =>
    (h memory past hholds).bind fun value memory' past' hholds' => hrest value memory' past' hholds'

theorem Keeps.get : Keeps holds (MonadState.get : Lookup Memory) := fun _ _ h => Ensures.get h

theorem Keeps.chase {nested : Purpose → Query → Lookup Answer} {query : Query} {target : Name}
    (hnested : Keeps holds (nested .aliasTarget { query with name := target })) :
    Keeps holds (chase nested query target) := by
  refine hnested.bind fun answer => ?_
  cases answer with
  | error error => exact Keeps.pure _
  | ok records => exact Keeps.pure _

/-! ## Attempts -/

/-- What holds after an attempt can be carried on to what comes next. -/
structure Carries (pre : Memory → History → Prop)
    (post : History → Answer → Memory → History → Prop) : Prop where
  /-- After an attempt there may be another one. -/
  again : ∀ {past answer memory' past'}, post past answer memory' past' → pre memory' past'
  /-- One may give up at any time. -/
  failed : ∀ {past memory' past'} error, pre memory' past' → post past (.error error) memory' past'
  /-- An attempt may begin long after the beginning. -/
  widen : ∀ {past past₁ answer memory' past'}, past <+: past₁ → post past₁ answer memory' past' →
    post past answer memory' past'

/-- Besides, notes may be taken. -/
structure CarriesNotes (pre : Memory → History → Prop)
    (post : History → Answer → Memory → History → Prop) : Prop extends Carries pre post where
  /-- A note may be taken before an attempt. -/
  noted : ∀ {memory past} step, pre memory past → pre memory (past ++ [.entry (.noted step)])
  /-- A note may be taken after an attempt. -/
  noted_after : ∀ {past answer memory' past'} step, post past answer memory' past' →
    post past answer memory' (past' ++ [.entry (.noted step)])

/-- What is kept holds after each attempt, whatever comes of it. -/
theorem carries_self (holds : Memory → History → Prop) :
    Carries holds fun _ _ memory' past' => holds memory' past' where
  again h := h
  failed _ h := h
  widen _ h := h

namespace Carries

variable {post : History → Answer → Memory → History → Prop} (hpost : Carries pre post)

include hpost

theorem error (error : ResolutionError) : Satisfies pre post (Pure.pure (.error error)) :=
  fun _ _ hpre => Ensures.pure (hpost.failed error hpre)

/-! ## Parts in a row -/

/-- What a program satisfies also holds as seen from an earlier beginning. -/
theorem ensures_since {program : Lookup Answer} {past₁ : History} (h : Satisfies pre post program)
    (hpre : pre memory past₁) (hpast : past <+: past₁) :
    program.Ensures memory past₁ (post past) :=
  (h memory past₁ hpre).mono fun _ _ _ => hpost.widen hpast

/-- Something that is no attempt comes first. -/
theorem ensures_bind {program : Lookup α} {rest : α → Lookup Answer}
    {middle : α → Memory → History → Prop} (h : program.Ensures memory past middle)
    (hrest : ∀ value memory₁ past₁, middle value memory₁ past₁ →
      (rest value).Ensures memory₁ past₁ (post past₁)) :
    (program >>= rest).Ensures memory past (post past) := by
  refine (h.and Ensures.extends_past).bind ?_
  rintro value memory₁ past₁ ⟨hmiddle, hpast⟩
  exact (hrest value memory₁ past₁ hmiddle).mono fun _ _ _ => hpost.widen hpast

theorem after {program : Lookup α} {rest : α → Lookup Answer} (h : Keeps pre program)
    (hrest : ∀ value, Satisfies pre post (rest value)) : Satisfies pre post (program >>= rest) :=
  fun memory past hpre => hpost.ensures_bind (h memory past hpre) hrest

/-- An answer is passed on, and after a failure something else is tried. -/
theorem otherwise {program : Lookup Answer} {rest : Answer → Lookup Answer}
    (h : Satisfies pre post program)
    (hok : ∀ records, rest (.ok records) = Pure.pure (.ok records))
    (herror : ∀ error, Satisfies pre post (rest (.error error))) :
    Satisfies pre post (program >>= rest) := by
  intro memory past hpre
  refine ((h memory past hpre).and Ensures.extends_past).bind ?_
  rintro (error | records) memory' past' ⟨hfirst, hpast⟩
  · exact hpost.ensures_since (herror error) (hpost.again hfirst) hpast
  · rw [hok]
    exact Ensures.pure hfirst

/-! ## Attempts in turn -/

theorem tryEach {visit : IpAddress → Lookup Answer}
    (hvisit : ∀ server, Satisfies pre post (visit server)) (last : ResolutionError)
    (servers : List IpAddress) : Satisfies pre post (tryEach visit last servers) := by
  induction servers generalizing last with
  | nil => exact hpost.error last
  | cons server servers ih =>
    refine hpost.otherwise (hvisit server) (fun _ => rfl) fun failure => ?_
    show Satisfies _ _ (if failure.isLookupWide = true then _ else _)
    split
    · exact hpost.error failure
    · exact ih failure

variable (config : Config) {nested : Purpose → Query → Lookup Answer}
  {onward : Option (IpAddress → Lookup Answer)}

theorem tryServers (honward : ∀ visit ∈ onward, ∀ server, Satisfies pre post (visit server))
    (servers : List IpAddress) : Satisfies pre post (tryServers config onward servers) := by
  cases onward with
  | none => exact hpost.error _
  | some visit => exact hpost.tryEach (honward visit rfl) _ servers

/-- The addresses of nameservers are only asked, so it does not matter how they were found. -/
theorem tryNameservers (hnested : ∀ name, Keeps pre (nested .nameserver ⟨name, .a⟩))
    (honward : ∀ visit ∈ onward, ∀ server, Satisfies pre post (visit server))
    (last : ResolutionError) (names : List Name) :
    Satisfies pre post (tryNameservers config nested onward last names) := by
  induction names generalizing last with
  | nil => exact hpost.error last
  | cons name names ih =>
    refine hpost.after (hnested name) fun answer => ?_
    cases answer with
    | error failure =>
      show Satisfies _ _ (if failure.isLimit = true then _ else _)
      split
      · exact hpost.error failure
      · exact ih last
    | ok records =>
      dsimp only
      split
      · exact ih last
      · refine hpost.otherwise (hpost.tryServers config honward _) (fun _ => rfl) fun failure => ?_
        show Satisfies _ _ (if failure.isLookupWide = true then _ else _)
        split
        · exact hpost.error failure
        · exact ih failure

end Carries

/-! ## Visits -/

namespace CarriesNotes

variable {post : History → Answer → Memory → History → Prop} (hpost : CarriesNotes pre post)

include hpost

theorem note (step : Step) : Keeps pre (note step) :=
  fun _ _ hpre => Ensures.note (hpost.noted step hpre)

theorem visiting {body : Lookup Answer} (h : Satisfies pre post body) (visit : Visit) :
    Satisfies pre post (visiting visit body) := by
  refine hpost.after (hpost.note _) fun _ memory past hpre => ?_
  refine (h memory past hpre).bind fun answer memory' past' hfirst => ?_
  exact Ensures.note_bind (Ensures.pure (hpost.noted_after _ hfirst))

/-- What a visit satisfies if the visits that it refers to do, all visits satisfy: by induction on
the referrals that are left. -/
theorem descend {config : Config} {nested : Purpose → Query → Lookup Answer} {query : Query}
    (hresolveAt : ∀ onward : Option (IpAddress → Lookup Answer),
      (∀ visit ∈ onward, ∀ server, Satisfies pre post (visit server)) →
      ∀ server, Satisfies pre post (resolveAt config nested onward query server))
    (depth left : Nat) (purpose : Purpose) (server : IpAddress) :
    Satisfies pre post (descend config nested depth query left purpose server) := by
  induction left generalizing purpose server with
  | zero =>
    refine hpost.visiting (hresolveAt none ?_ server) _
    intro visit hvisit
    cases hvisit
  | succ left ih =>
    refine hpost.visiting (hresolveAt (some _) ?_ server) _
    intro visit hvisit
    cases hvisit
    exact ih .referral

end CarriesNotes

namespace Keeps

variable {config : Config} {nested : Purpose → Query → Lookup Answer}
  {onward : Option (IpAddress → Lookup Answer)} {query : Query} {server : IpAddress}
  (halias : ∀ target, Keeps holds (nested .aliasTarget { query with name := target }))
  (hnameserver : ∀ name, Keeps holds (nested .nameserver ⟨name, .a⟩))
  (honward : ∀ visit ∈ onward, ∀ server, Keeps holds (visit server))

include halias hnameserver honward

theorem act (verdict : Verdict) : Keeps holds (act config nested onward query server verdict) := by
  have hcarries := carries_self holds
  cases verdict with
  | final records => exact Keeps.pure _
  | refused => exact Keeps.pure _
  | aliased target => exact Keeps.chase (halias target)
  | unusable =>
    refine Keeps.get.bind fun memory => ?_
    split
    · exact Keeps.chase (halias _)
    · exact Keeps.pure _
  | servers addresses => exact hcarries.tryServers config honward addresses
  | nameservers names => exact hcarries.tryNameservers config hnameserver honward _ names
  | deadEnd => exact Keeps.pure _

/-- A visit keeps what its sub-lookups and the visits that it refers to keep.  In between, the
response has been learned but not yet read. -/
theorem resolveAt
    (hasked : ∀ memory past, holds memory past →
      (ask config query server).Ensures memory past fun result memory' past' =>
        match result with
        | .error _ => holds memory' past'
        | .ok message => holds (memory'.learn message) past') :
    Keeps holds (resolveAt config nested onward query server) := by
  refine Keeps.get.bind fun memory => ?_
  split
  · refine Keeps.get.bind fun memory => ?_
    split
    · exact Keeps.chase (halias _)
    · intro memory past h
      refine (hasked memory past h).bind fun result memory' past' h' => ?_
      cases result with
      | error error => exact Ensures.pure h'
      | ok message =>
        exact Ensures.modify_bind (Keeps.act halias hnameserver honward _ _ _ h')
  · exact Keeps.pure _

end Keeps

end IterativeDns.Lookup
