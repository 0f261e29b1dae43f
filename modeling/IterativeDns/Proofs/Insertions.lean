import IterativeDns.Cache
import Mathlib.Data.Finset.Card
import Mathlib.Data.List.Induction

/-!
# What insertions leave in a cache

Records are inserted into a cache one after the other, each at a moment of its own, which may lie
before the moments of earlier ones.  A record that is inserted again counts as the same one, and
only its moment changes.  This file says what a cache holds by means of the list of all insertions.

* `CacheEntry.IsLastOf` — an insertion is the last one of its record.
* `Cache.mem_insertEach` — a cache holds the last insertion of each record, and
  `Cache.nodup_insertEach` — it holds no record twice.
* `Cache.insertEach_eq_last_insertions` — **what is found, enumerated and counted are the last
  insertions.**
-/

namespace IterativeDns

/-- An insertion is the last one of its record among several, which come in their order. -/
def CacheEntry.IsLastOf (entry : CacheEntry) (insertions : List CacheEntry) : Prop :=
  ∃ before after, insertions = before ++ entry :: after ∧
    ∀ later ∈ after, later.record ≠ entry.record

namespace CacheEntry

variable {entry last : CacheEntry} {insertions : List CacheEntry}

theorem not_isLastOf_nil : ¬ entry.IsLastOf [] := by
  rintro ⟨before, after, h, -⟩
  simp at h

theorem IsLastOf.mem (h : entry.IsLastOf insertions) : entry ∈ insertions := by
  obtain ⟨before, after, rfl, -⟩ := h
  simp

/-- One more insertion takes the place of those of the same record. -/
theorem isLastOf_append_singleton :
    entry.IsLastOf (insertions ++ [last]) ↔
      entry = last ∨ (entry.IsLastOf insertions ∧ entry.record ≠ last.record) := by
  constructor
  · rintro ⟨before, after, hsplit, hlater⟩
    rcases List.eq_nil_or_concat after with rfl | ⟨middle, final, rfl⟩
    · obtain ⟨-, hlast⟩ := List.append_inj' hsplit rfl
      exact .inl (List.cons.inj hlast).1.symm
    · have hshift : insertions ++ [last] = (before ++ entry :: middle) ++ [final] := by
        simpa using hsplit
      obtain ⟨rfl, hlast⟩ := List.append_inj' hshift rfl
      obtain ⟨rfl, -⟩ := List.cons.inj hlast
      refine .inr ⟨⟨before, middle, rfl, fun later hmem => hlater later (by simp [hmem])⟩, ?_⟩
      exact (hlater last (by simp)).symm
  · rintro (rfl | ⟨⟨before, after, rfl, hlater⟩, hother⟩)
    · exact ⟨insertions, [], rfl, by simp⟩
    · refine ⟨before, after ++ [last], by simp, List.forall_mem_append.2 ⟨hlater, ?_⟩⟩
      exact List.forall_mem_singleton.2 hother.symm

/-- Each record that is inserted has a last insertion. -/
theorem exists_isLastOf (hmem : entry ∈ insertions) :
    ∃ found : CacheEntry, found.IsLastOf insertions ∧ found.record = entry.record := by
  induction insertions using List.reverseRecOn with
  | nil => cases hmem
  | append_singleton insertions last ih =>
    by_cases hsame : entry.record = last.record
    · exact ⟨last, isLastOf_append_singleton.2 (.inl rfl), hsame.symm⟩
    · rcases List.mem_append.1 hmem with hmem | hmem
      · obtain ⟨found, hfound, hrecord⟩ := ih hmem
        exact ⟨found, isLastOf_append_singleton.2 (.inr ⟨hfound, hrecord ▸ hsame⟩), hrecord⟩
      · exact absurd (congrArg record (List.mem_singleton.1 hmem)) hsame

/-- An entry is live as long as less time has passed than its record has to live. -/
theorem isLive_iff {now : Instant} :
    entry.isLive now = true ↔
      Record.elapsed entry.storedAt now < entry.record.ttl.toNat * 1000 := by
  simp [isLive, Record.isExpired]

end CacheEntry

namespace Cache

/-! ## Insertions one after the other -/

/-- Inserts records one after the other, each at its own moment. -/
def insertEach (cache : Cache) (insertions : List CacheEntry) : Cache :=
  insertions.foldl (fun cache entry => cache.insert entry.record entry.storedAt) cache

variable {normalizeNames : Bool} {insertions : List CacheEntry} {entry : CacheEntry}

theorem insertEach_append_singleton (cache : Cache) (insertions : List CacheEntry)
    (last : CacheEntry) :
    cache.insertEach (insertions ++ [last]) =
      (cache.insertEach insertions).insert last.record last.storedAt := by
  simp [insertEach]

theorem key_insertEach (cache : Cache) (insertions : List CacheEntry) :
    (cache.insertEach insertions).key = cache.key := by
  induction insertions generalizing cache with
  | nil => rfl
  | cons first insertions ih => exact ih (cache.insert first.record first.storedAt)

/-- **No record is stored twice.** -/
theorem nodup_insertEach :
    (((Cache.empty normalizeNames).insertEach insertions).entries.map (·.record)).Nodup := by
  induction insertions using List.reverseRecOn with
  | nil => exact List.nodup_nil
  | append_singleton insertions last ih =>
    rw [insertEach_append_singleton]
    exact nodup_store ih

/-- **A cache holds the last insertion of each record,** and nothing else. -/
theorem mem_insertEach :
    entry ∈ ((Cache.empty normalizeNames).insertEach insertions).entries ↔
      entry.IsLastOf insertions := by
  induction insertions using List.reverseRecOn with
  | nil => exact iff_of_false List.not_mem_nil CacheEntry.not_isLastOf_nil
  | append_singleton insertions last ih =>
    rw [insertEach_append_singleton, CacheEntry.isLastOf_append_singleton, ← ih]
    exact mem_store nodup_insertEach

/-- The records that are stored are those that were inserted. -/
theorem mem_record_insertEach {record : Record} :
    record ∈ ((Cache.empty normalizeNames).insertEach insertions).entries.map (·.record) ↔
      record ∈ insertions.map (·.record) := by
  simp only [List.mem_map, mem_insertEach]
  constructor
  · rintro ⟨entry, hlast, rfl⟩
    exact ⟨entry, hlast.mem, rfl⟩
  · rintro ⟨entry, hmem, rfl⟩
    exact CacheEntry.exists_isLastOf hmem

/-! ## Finding, enumerating and counting -/

variable {cache : Cache} {query key : Query} {now : Instant}

theorem mem_found : entry ∈ cache.found query now ↔
    entry ∈ cache.entries ∧ cache.key entry.record.query = cache.key query ∧
      Record.elapsed entry.storedAt now < entry.record.ttl.toNat * 1000 := by
  simp only [found, List.mem_filter, Bool.and_eq_true, beq_iff_eq, keyOf, CacheEntry.isLive_iff]

theorem mem_filed : entry ∈ cache.filed key ↔
    entry ∈ cache.entries ∧ cache.key entry.record.query = key := by
  simp only [filed, List.mem_filter, beq_iff_eq, keyOf]

theorem mem_keys : key ∈ cache.keys ↔
    ∃ entry ∈ cache.entries, cache.key entry.record.query = key := by
  simp only [keys, List.mem_eraseDups, List.mem_map, keyOf]

/-- No key is enumerated twice: by induction on the number of entries. -/
theorem nodup_eraseDups (queries : List Query) : queries.eraseDups.Nodup := by
  induction hlength : queries.length using Nat.strong_induction_on generalizing queries with
  | _ length ih =>
    cases queries with
    | nil => exact List.nodup_nil
    | cons first rest =>
      have hfewer : (rest.filter fun query => !query == first).length < length := by
        have hrest := List.length_filter_le (fun query => !query == first) rest
        simp only [List.length_cons] at hlength
        omega
      rw [List.eraseDups_cons, List.nodup_cons]
      refine ⟨?_, ih _ hfewer _ rfl⟩
      simp

/-- Under each key that is enumerated something is filed. -/
theorem filed_ne_nil (h : key ∈ cache.keys) : cache.filed key ≠ [] := by
  obtain ⟨entry, hmem, hkey⟩ := mem_keys.1 h
  exact List.ne_nil_of_mem (mem_filed.2 ⟨hmem, hkey⟩)

theorem nodup_filter (hdistinct : (cache.entries.map (·.record)).Nodup)
    (keep : CacheEntry → Bool) : ((cache.entries.filter keep).map (·.record)).Nodup :=
  hdistinct.sublist (List.filter_sublist.map _)

theorem size_eq_card (hdistinct : (cache.entries.map (·.record)).Nodup) :
    cache.size = (cache.entries.map (·.record)).toFinset.card := by
  rw [List.toFinset_card_of_nodup hdistinct, List.length_map, size]

/-- **What insertions leave in a cache.**  Records may be inserted in any order of time, and into a
cache that normalizes names or not.  For a query exactly those records are found, each once and
with the moment of its last insertion, whose key is that of the query and which have been stored
for less than their time to live; a last insertion that lies in the future counts as one of the
present.  The keys that are enumerated are those of the inserted records, each once, and under each
of them all its records are filed, expired ones included, each once and with its last moment.  The
size is the number of different records. -/
theorem insertEach_eq_last_insertions (normalizeNames : Bool) (insertions : List CacheEntry) :
    let cache := (Cache.empty normalizeNames).insertEach insertions
    let keyOf (query : Query) := if normalizeNames then query.normalized else query
    (∀ query now, cache.lookup query now = (cache.found query now).map (·.record) ∧
      (cache.lookup query now).Nodup ∧
      ∀ entry, entry ∈ cache.found query now ↔ entry.IsLastOf insertions ∧
        keyOf entry.record.query = keyOf query ∧
        (now - entry.storedAt).toNat < entry.record.ttl.toNat * 1000) ∧
    cache.keys.Nodup ∧
    (∀ key, key ∈ cache.keys ↔ ∃ entry ∈ insertions, keyOf entry.record.query = key) ∧
    (∀ key ∈ cache.keys, cache.filed key ≠ [] ∧ ((cache.filed key).map (·.record)).Nodup ∧
      ∀ entry, entry ∈ cache.filed key ↔ entry.IsLastOf insertions ∧
        keyOf entry.record.query = key) ∧
    cache.size = (insertions.map (·.record)).toFinset.card := by
  intro cache keyOf
  have hkey : cache.key = keyOf := key_insertEach _ insertions
  have hdistinct : (cache.entries.map (·.record)).Nodup := nodup_insertEach
  refine ⟨fun query now => ⟨rfl, nodup_filter hdistinct _, fun entry => ?_⟩, ?_, fun key => ?_,
    fun key hmem => ⟨filed_ne_nil hmem, nodup_filter hdistinct _, fun entry => ?_⟩, ?_⟩
  · rw [mem_found, mem_insertEach, hkey]
    exact Iff.rfl
  · exact nodup_eraseDups _
  · rw [mem_keys, hkey]
    constructor
    · rintro ⟨entry, hmem, hentry⟩
      exact ⟨entry, (mem_insertEach.1 hmem).mem, hentry⟩
    · rintro ⟨entry, hmem, hentry⟩
      obtain ⟨found, hlast, hrecord⟩ := CacheEntry.exists_isLastOf hmem
      exact ⟨found, mem_insertEach.2 hlast, by rw [hrecord, hentry]⟩
  · rw [mem_filed, mem_insertEach, hkey]
  · rw [size_eq_card hdistinct]
    congr 1
    ext record
    rw [List.mem_toFinset, List.mem_toFinset, mem_record_insertEach]

end Cache

end IterativeDns
