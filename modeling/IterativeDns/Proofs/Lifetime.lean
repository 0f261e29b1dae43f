import IterativeDns.Proofs.Insertions
import IterativeDns.Proofs.Recollection

/-!
# The lifetime of a resolver

A resolver is used for many lookups, successful or not.  In between, the root server is changed,
reports are turned on and off, and time passes.  This file follows a resolver through all of its
uses, against any network.

* `Lifetime` — a resolver, the network that it is used with, and all that has happened to it.
* `Lifetime.recalls_begin_run` — **the memory of a resolver agrees with its history at all times.**
* `Lifetime.cache_eq_learned_arrivals` — what a cache holds is decided by the accepted responses.
* `Lifetime.mem_entries_iff_isLastOf` — each of their records is stored once, with the moment at
  which it arrived last.
-/

namespace IterativeDns

variable {σ : Type}

/-! ## Using a resolver -/

/-- Something that is done with a resolver. -/
inductive Use where
  /-- Records are looked up. -/
  | lookup (query : Query)
  /-- Another server is chosen to start at. -/
  | setRootServer (server : IpAddress)
  /-- Reports are turned on or off. -/
  | setVerbose (verbose : Bool)
  /-- Someone subscribes to the reports. -/
  | subscribe
  /-- A subscriber leaves. -/
  | unsubscribe (subscriber : Nat)
  /-- A subscriber collects the reports. -/
  | collect (subscriber : Nat)
  /-- Time passes. -/
  | wait (milliseconds : Nat)

/-- A resolver in use. -/
structure Lifetime (σ : Type) where
  /-- The resolver. -/
  resolver : Resolver
  /-- The state of the network. -/
  network : σ
  /-- All that has happened to the resolver. -/
  history : History

namespace Lifetime

/-- A resolver that has just been made. -/
def begin (config : Config) (state : σ) : Lifetime σ := ⟨.ofConfig config, state, []⟩

/-- The lookup of a query, held with a network. -/
def lookup (network : Network σ) (life : Lifetime σ) (query : Query) :
    Held σ (Answer × Resolver) :=
  (life.resolver.lookup query).hold network life.network

/-- What is left of a resolver after one use. -/
def use (network : Network σ) (life : Lifetime σ) : Use → Lifetime σ
  | .lookup query =>
    let held := life.lookup network query
    ⟨held.value.2, held.network, life.history ++ held.transcript.history⟩
  | .setRootServer server => { life with resolver := life.resolver.setRootServer server }
  | .setVerbose verbose => { life with resolver := life.resolver.setVerbose verbose }
  | .subscribe => { life with resolver := life.resolver.subscribe.1 }
  | .unsubscribe subscriber => { life with resolver := life.resolver.unsubscribe subscriber }
  | .collect subscriber => { life with resolver := (life.resolver.collect subscriber).2 }
  | .wait milliseconds =>
    { life with
      resolver := life.resolver.wait milliseconds
      history := life.history ++ [.idle milliseconds] }

/-- What is left of a resolver after several uses. -/
def run (network : Network σ) (life : Lifetime σ) (uses : List Use) : Lifetime σ :=
  uses.foldl (use network) life

end Lifetime

/-! ## One lookup -/

/-- What a lookup leads to is what its parts lead to; only the memory changes. -/
theorem Resolver.yields_lookup {resolver resolver' : Resolver} {query : Query}
    {transcript : Transcript} {answer : Answer}
    (h : (resolver.lookup query).Yields transcript (answer, resolver')) :
    (Lookup.whole resolver.config query resolver.memory).Yields transcript
        (answer, resolver'.memory) ∧
      resolver'.config = resolver.config := by
  obtain ⟨before, ⟨found, memory⟩, after, rfl, hwhole, hafter⟩ := Dialogue.Yields.of_bind h
  cases hafter
  rw [List.append_nil]
  exact ⟨hwhole, rfl⟩

/-- What is ensured of all lookups is true of a lookup held with a network. -/
theorem Resolver.of_ensures {resolver : Resolver} {query : Query} {past : History}
    {post : Answer → Memory → History → Prop}
    (h : (Lookup.whole resolver.config query).Ensures resolver.memory past post)
    (network : Network σ) (state : σ) :
    let held := (resolver.lookup query).hold network state
    post held.value.1 held.value.2.memory (past ++ held.transcript.history) :=
  h (yields_lookup (Dialogue.yields_hold network _ state)).1

theorem Lifetime.of_ensures {life : Lifetime σ} {query : Query}
    {post : Answer → Memory → History → Prop}
    (h : (Lookup.whole life.resolver.config query).Ensures life.resolver.memory life.history post)
    (network : Network σ) :
    post (life.lookup network query).value.1 (life.use network (.lookup query)).resolver.memory
      (life.use network (.lookup query)).history :=
  Resolver.of_ensures h network life.network

/-! ## All of a lifetime -/

namespace Lifetime

theorem run_append (network : Network σ) (life : Lifetime σ) (uses uses' : List Use) :
    life.run network (uses ++ uses') = (life.run network uses).run network uses' :=
  List.foldl_append

/-- The settings are those that the resolver was made with, but for the root server. -/
theorem config_use (network : Network σ) (life : Lifetime σ) (use : Use) :
    ∃ server, (life.use network use).resolver.config =
      { life.resolver.config with rootServer := server } := by
  cases use with
  | lookup query =>
    exact ⟨_, (Resolver.yields_lookup (Dialogue.yields_hold network _ life.network)).2⟩
  | setRootServer server => exact ⟨server, rfl⟩
  | _ => exact ⟨_, rfl⟩

theorem config_run (network : Network σ) (life : Lifetime σ) (uses : List Use) :
    ∃ server, (life.run network uses).resolver.config =
      { life.resolver.config with rootServer := server } := by
  induction uses generalizing life with
  | nil => exact ⟨_, rfl⟩
  | cons use uses ih =>
    obtain ⟨server, huse⟩ := life.config_use network use
    obtain ⟨server', hrun⟩ := ih (life.use network use)
    refine ⟨server', ?_⟩
    rw [run, List.foldl_cons, ← run, hrun, huse]

theorem recalls_use (network : Network σ) {start : Memory} {life : Lifetime σ}
    (h : start.Recalls life.resolver.memory life.history) (use : Use) :
    start.Recalls (life.use network use).resolver.memory (life.use network use).history := by
  cases use with
  | lookup query =>
    exact of_ensures ((Lookup.invariant_recalls _ start).keeps_whole query _ _ h) network
  | wait milliseconds => exact h.missed (.idle milliseconds) rfl
  | _ => exact h.congr rfl rfl

theorem recalls_run (network : Network σ) {start : Memory} {life : Lifetime σ}
    (h : start.Recalls life.resolver.memory life.history) (uses : List Use) :
    start.Recalls (life.run network uses).resolver.memory (life.run network uses).history := by
  induction uses generalizing life with
  | nil => exact h
  | cons use uses ih => exact ih (recalls_use network h use)

/-- **The memory of a resolver agrees with its history at all times.** -/
theorem recalls_begin_run (config : Config) (network : Network σ) (state : σ) (uses : List Use) :
    let life := (begin config state).run network uses
    (Resolver.ofConfig config).memory.Recalls life.resolver.memory life.history :=
  have hbegin : (Resolver.ofConfig config).memory.Recalls (begin config state).resolver.memory
      (begin config state).history := .refl _
  recalls_run network hbegin uses

end Lifetime

/-! ## What is stored -/

/-- The insertions that a message leads to when it arrives. -/
def Arrival.insertions (arrival : Arrival) : List CacheEntry :=
  arrival.message.records.map (⟨·, arrival.moment⟩)

namespace Cache

theorem insertEach_insertions (cache : Cache) (arrival : Arrival) :
    cache.insertEach arrival.insertions =
      cache.insertAll arrival.message.records arrival.moment := by
  rw [insertEach, Arrival.insertions, List.foldl_map, insertAll]

/-- Messages are learned record by record. -/
theorem learned_eq_insertEach (cache : Cache) (arrivals : List Arrival) :
    cache.learned arrivals = cache.insertEach (arrivals.flatMap Arrival.insertions) := by
  induction arrivals generalizing cache with
  | nil => rfl
  | cons arrival arrivals ih =>
    calc (cache.insertAll arrival.message.records arrival.moment).learned arrivals
        = (cache.insertEach arrival.insertions).learned arrivals := by rw [insertEach_insertions]
      _ = (cache.insertEach arrival.insertions).insertEach
            (arrivals.flatMap Arrival.insertions) := ih _
      _ = cache.insertEach ((arrival :: arrivals).flatMap Arrival.insertions) := by
        rw [List.flatMap_cons, insertEach, insertEach, insertEach, List.foldl_append]

end Cache

/-- **What is stored.**  After any uses of a new resolver, on any network, each record of the
messages that arrived is stored once, with the moment at which it arrived last, expired or not.
Nothing else is stored. -/
theorem Lifetime.mem_entries_iff_isLastOf (config : Config) (network : Network σ) (state : σ)
    (uses : List Use) :
    let life := (begin config state).run network uses
    let cache := life.resolver.memory.cache
    let insertions := (life.history.arrivals 0).flatMap Arrival.insertions
    (cache.entries.map (·.record)).Nodup ∧
      ∀ entry, entry ∈ cache.entries ↔ entry.IsLastOf insertions := by
  intro life cache insertions
  have hcache : cache = (Cache.empty config.normalizeNames).insertEach insertions :=
    (recalls_begin_run config network state uses).cache_eq.trans
      (Cache.learned_eq_insertEach _ _)
  rw [hcache]
  exact ⟨Cache.nodup_insertEach, fun entry => Cache.mem_insertEach⟩

end IterativeDns
