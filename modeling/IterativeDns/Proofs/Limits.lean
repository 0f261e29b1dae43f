import IterativeDns.Proofs.Nesting

/-!
# What the limits limit

The settings say how many names may be looked up inside the lookup of another one, and how many
referrals may be followed.  A visit hands its counters on to each visit that it calls, and does not
get them back.  This file shows what the counters count.

* `Config.Nested.countP_isNested`, `Config.Nested.length_takeWhile_referral` — the counters of a
  visit are about the visits around it.
* `Resolver.limits_hold_under_way` — **at all times the visits under way keep within the limits.**
* `Resolver.limits_lt_totals` — all visits of a lookup together need not, because a visit that tries
  one nameserver after the other begins each time with the same counters.
-/

namespace IterativeDns

/-! ## The visits under way -/

theorem Purpose.ne_referral_of_isNested {purpose : Purpose} (h : purpose.isNested = true) :
    purpose ≠ .referral := by
  intro heq
  rw [heq] at h
  cases h

namespace Config.Nested

variable {config : Config} {visit : Visit} {outer : List Visit}

/-- **The depth of a visit counts the names looked up inside the lookup of another one.** -/
theorem countP_isNested (h : config.Nested (visit :: outer)) :
    (visit :: outer).countP (fun around => around.purpose.isNested) = visit.depth := by
  refine h.induct ?lookup ?referral ?nested
  case lookup =>
    intro visit hpurpose hdepth _
    simp [hpurpose, hdepth, Purpose.isNested]
  case referral =>
    intro visit caller outer hcaller hpurpose hdepth _
    have hsame : ¬ visit.purpose.isNested = true := by simp [hpurpose, Purpose.isNested]
    rw [List.countP_cons_of_neg (by exact hsame), hcaller, hdepth]
  case nested =>
    intro visit caller outer hcaller _ hpurpose hdepth _
    rw [List.countP_cons_of_pos (by exact hpurpose), hcaller, hdepth]

/-- **The other counter of a visit counts the referrals followed since.** -/
theorem length_takeWhile_referral (h : config.Nested (visit :: outer)) :
    ((visit :: outer).takeWhile fun around => around.purpose = .referral).length =
      visit.referrals := by
  refine h.induct ?lookup ?referral ?nested
  case lookup =>
    intro visit hpurpose _ hcount
    simp [hpurpose, hcount]
  case referral =>
    intro visit caller outer hcaller hpurpose _ hcount
    rw [List.takeWhile_cons_of_pos (by simp [hpurpose]), List.length_cons, hcaller, hcount]
  case nested =>
    intro visit caller outer _ _ hpurpose _ hcount
    have hother := Purpose.ne_referral_of_isNested hpurpose
    rw [List.takeWhile_cons_of_neg (by simp [hother]), List.length_nil, hcount]

/-- Each name may bring its own referrals. -/
theorem countP_referral_le (h : config.Nested (visit :: outer)) :
    (visit :: outer).countP (fun around => around.purpose = .referral) ≤
      visit.depth * config.maxReferrals + visit.referrals := by
  refine h.induct ?lookup ?referral ?nested
  case lookup =>
    intro visit hpurpose _ _
    simp [hpurpose]
  case referral =>
    intro visit caller outer hcaller hpurpose hdepth hcount
    rw [List.countP_cons_of_pos (by simp [hpurpose]), hdepth, hcount]
    omega
  case nested =>
    intro visit caller outer hcaller hlimit hpurpose hdepth hcount
    have hother := Purpose.ne_referral_of_isNested hpurpose
    rw [List.countP_cons_of_neg (by simp [hother]), hdepth, hcount, Nat.succ_mul]
    omega

/-- Nested visits keep within the limits. -/
theorem within_limits {visits : List Visit} (h : config.Nested visits) :
    visits.countP (fun visit => visit.purpose.isNested) ≤ config.maxIndirection + 1 ∧
      (visits.takeWhile fun visit => visit.purpose = .referral).length ≤ config.maxReferrals ∧
      visits.countP (fun visit => visit.purpose = .referral) ≤
        (config.maxIndirection + 1) * config.maxReferrals := by
  cases visits with
  | nil => simp
  | cons visit outer =>
    have hdepth := h.depth_le visit List.mem_cons_self
    have hreferrals := h.referrals_le visit List.mem_cons_self
    rw [h.countP_isNested, h.length_takeWhile_referral]
    refine ⟨hdepth, hreferrals, h.countP_referral_le.trans ?_⟩
    rcases Nat.lt_or_eq_of_le hdepth with hinside | hbelow
    · calc visit.depth * config.maxReferrals + visit.referrals
          ≤ config.maxIndirection * config.maxReferrals + config.maxReferrals :=
            Nat.add_le_add (Nat.mul_le_mul_right _ (Nat.le_of_lt_succ hinside)) hreferrals
        _ = (config.maxIndirection + 1) * config.maxReferrals := (Nat.succ_mul _ _).symm
    · rw [h.referrals_eq_zero hbelow, hbelow]
      exact Nat.le_refl _

/-- Below the limit of indirection nobody is asked. -/
theorem countP_isNested_le_of_permits {visits : List Visit} (h : config.Nested visits)
    {request : Request} {delivery : Delivery}
    (hpermits : config.Permits visits (.entry (.exchanged request delivery))) :
    visits.countP (fun visit => visit.purpose.isNested) ≤ config.maxIndirection := by
  obtain ⟨visit, hvisit, hdepth, -⟩ := hpermits
  obtain ⟨outer, rfl⟩ := List.head?_eq_some_iff.1 (Option.mem_def.1 hvisit)
  rw [h.countP_isNested]
  exact hdepth

end Config.Nested

/-! ## All visits of a lookup -/

/-- Counts the referrals that are followed, each one when the first of its servers is visited. -/
structure Tally where
  /-- For each visit under way, the innermost first, whether it has followed a referral. -/
  followers : List Bool := []
  /-- How many referrals were followed. -/
  total : Nat := 0

/-- The tally after something happens. -/
def Tally.count (tally : Tally) : Occurrence → Tally
  | .entry (.noted (.entered visit)) =>
    match visit.purpose, tally.followers with
    | .referral, false :: outer => ⟨false :: true :: outer, tally.total + 1⟩
    | _, followers => { tally with followers := false :: followers }
  | .entry (.noted (.left _ _)) => { tally with followers := tally.followers.tail }
  | _ => tally

namespace History

/-- How many names were looked up inside the lookup of another one. -/
def nestedLookups (past : History) : Nat :=
  past.countP fun
    | .entry (.noted (.entered visit)) => visit.purpose.isNested
    | _ => false

/-- How many referrals were followed. -/
def followedReferrals (past : History) : Nat := (past.foldl Tally.count {}).total

end History

/-- **The limits hold along the visits under way.**  At all times of a lookup on any network, no
more names are being looked up inside the lookup of another one than the limit and one, and nobody
is asked about that last one.  No more referrals than the limit led to the innermost visit since its
name was first asked about at the root, and no more than the limit for each level led there at
all. -/
theorem Resolver.limits_hold_under_way {σ : Type} (resolver : Resolver) (query : Query)
    (network : Network σ) (state : σ) :
    let config := resolver.config
    let history := ((resolver.lookup query).hold network state).transcript.history
    (∀ past : History, past <+: history →
      past.underWay.countP (fun visit => visit.purpose.isNested) ≤ config.maxIndirection + 1 ∧
      (past.underWay.takeWhile fun visit => visit.purpose = .referral).length ≤
        config.maxReferrals ∧
      past.underWay.countP (fun visit => visit.purpose = .referral) ≤
        (config.maxIndirection + 1) * config.maxReferrals) ∧
    ∀ (past : History) request delivery,
      past ++ [.entry (.exchanged request delivery)] <+: history →
      past.underWay.countP (fun visit => visit.purpose.isNested) ≤ config.maxIndirection := by
  intro config history
  obtain ⟨horderly, -⟩ := resolver.orderly_lookup query network state
  constructor
  · intro past hpast
    exact (horderly.nested past hpast).within_limits
  · intro past request delivery hpast
    have hnested := horderly.nested past ((List.prefix_append _ _).trans hpast)
    exact hnested.countP_isNested_le_of_permits (horderly.permitted past _ hpast)

/-- A root server that refers a query to two nameservers without their addresses, and queries for
the nameservers to a server that knows the second one only. -/
def detourScript : Script where
  rules := [
    ⟨.v4 ⟨10, 0, 0, 1⟩, some ⟨"www.example.com"⟩, none, [.response false fun message =>
      (message.addAuthority
        ⟨⟨"example.com"⟩, .ns, internetClass, 60, .ns ⟨"ns1.example.net"⟩⟩).addAuthority
        ⟨⟨"example.com"⟩, .ns, internetClass, 60, .ns ⟨"ns2.example.net"⟩⟩]⟩,
    ⟨.v4 ⟨10, 0, 0, 1⟩, none, none, [.response false (·.addAdditional
      ⟨⟨"ns.example.net"⟩, .a, internetClass, 60, .a ⟨10, 0, 0, 2⟩⟩)]⟩,
    ⟨.v4 ⟨10, 0, 0, 2⟩, some ⟨"ns2.example.net"⟩, none, [.response true (·.addAnswer
      ⟨⟨"ns2.example.net"⟩, .a, internetClass, 60, .a ⟨10, 0, 0, 3⟩⟩)]⟩,
    ⟨.v4 ⟨10, 0, 0, 2⟩, none, none, [.response true id]⟩,
    ⟨.v4 ⟨10, 0, 0, 3⟩, none, none, [.response true (·.addAnswer
      ⟨⟨"www.example.com"⟩, .a, internetClass, 60, .a ⟨192, 0, 2, 1⟩⟩)]⟩]
  nextId := 7

/-- The visits of one lookup together may go beyond both limits. -/
theorem Resolver.limits_lt_totals :
    let config : Config :=
      { rootServer := .v4 ⟨10, 0, 0, 1⟩, maxIndirection := 1, maxReferrals := 1 }
    let lookup := (Resolver.ofConfig config).lookup ⟨⟨"www.example.com"⟩, .a⟩
    let history := (lookup.hold Script.network detourScript).transcript.history
    config.maxIndirection < history.nestedLookups ∧
      config.maxReferrals < history.followedReferrals := by
  decide +kernel

end IterativeDns
