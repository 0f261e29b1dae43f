import IterativeDns.Proofs.Traversal

/-!
# Invariants of a lookup

A lookup changes its memory in two ways only: by asking a server and learning the response, and by
putting reports into mailboxes.  This file concludes that what these two keep, a whole lookup keeps,
through all its retries, referrals, aliases and nameservers.

* `Lookup.Invariant` — what is to be shown of one question to one server, and of notes and reports.
* `Lookup.Invariant.keeps_whole` — **what one question keeps, a whole lookup keeps.**
-/

namespace IterativeDns.Lookup

variable {config : Config} {holds : Memory → History → Prop}

/-- Something that holds throughout a lookup. -/
structure Invariant (config : Config) (holds : Memory → History → Prop) : Prop where
  /-- A note does not matter. -/
  noted : ∀ memory past step, holds memory past → holds memory (past ++ [.entry (.noted step)])
  /-- A report does not matter. -/
  delivered : ∀ memory past event, holds memory past → holds (memory.deliver event) past
  /-- It holds again after a question to a server, once the response has been learned. -/
  asked : ∀ query server memory past, holds memory past →
    (ask config query server).Ensures memory past fun result memory' past' =>
      match result with
      | .error _ => holds memory' past'
      | .ok message => holds (memory'.learn message) past'

namespace Invariant

variable (hinv : Invariant config holds)

include hinv

/-- An invariant holds after each attempt, whatever comes of it and whatever is noted. -/
theorem carries : CarriesNotes holds fun _ _ memory' past' => holds memory' past' where
  toCarries := carries_self holds
  noted step h := hinv.noted _ _ step h
  noted_after step h := hinv.noted _ _ step h

theorem keeps_announce (event : TraceEvent) : Keeps holds (announce event) := by
  refine Keeps.get.bind fun memory => ?_
  split
  · refine (hinv.carries.note _).bind fun _ => ?_
    intro memory past h
    exact Ensures.modify (hinv.delivered memory past event h)
  · exact Keeps.pure _

/-! ## Whole lookups -/

theorem keeps_resolve (levels : Nat) (purpose : Purpose) (query : Query) :
    Keeps holds (resolve config levels purpose query) := by
  induction levels generalizing purpose query with
  | zero => exact hinv.carries.visiting (Keeps.pure _) _
  | succ left ih =>
    have hresolveAt : ∀ onward : Option (IpAddress → Lookup Answer),
        (∀ visit ∈ onward, ∀ server, Keeps holds (visit server)) →
        ∀ server, Keeps holds (resolveAt config (resolve config left) onward query server) :=
      fun _ honward server => Keeps.resolveAt (fun _ => ih _ _) (fun _ => ih _ _) honward
        (hinv.asked query server)
    exact hinv.carries.descend hresolveAt _ _ _ _

/-- **What one question keeps, a whole lookup keeps.** -/
theorem keeps_whole (query : Query) : Keeps holds (whole config query) := by
  refine (hinv.keeps_resolve _ _ _).bind fun answer => ?_
  cases answer with
  | ok records => exact Keeps.pure _
  | error reason => exact (hinv.keeps_announce _).bind fun _ => Keeps.pure _

end Invariant

end IterativeDns.Lookup
