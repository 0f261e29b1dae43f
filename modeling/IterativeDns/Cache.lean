import IterativeDns.Record.Basic

/-!
# The cache

This file holds every record that a resolver has seen, with the moment at which it was stored
last.  Records are filed under their owner and type; a cache may ignore the case of names and a
dot at their end when it files and finds records.  Expiry is lazy: an expired record stays stored
and is passed over when records are looked up.  The main facts are what one insertion does to the
stored records, and that no record is stored twice.
-/

namespace IterativeDns

/-- A stored record. -/
structure CacheEntry where
  /-- The record. -/
  record : Record
  /-- The moment at which it was stored last. -/
  storedAt : Instant
deriving DecidableEq, Repr

/-- The entry has not expired at a moment. -/
def CacheEntry.isLive (now : Instant) (entry : CacheEntry) : Bool :=
  !entry.record.isExpired entry.storedAt now

/-- The records that a resolver has seen.  A cache is a set of records and promises no order of
them.  Here they stand in the order in which they came first, which is one of those allowed. -/
structure Cache where
  /-- Names are filed under their normalized form. -/
  normalizeNames : Bool
  /-- The stored records. -/
  entries : List CacheEntry
deriving DecidableEq, Repr

namespace Cache

/-- The cache without records. -/
def empty (normalizeNames : Bool) : Cache := ⟨normalizeNames, []⟩

/-- The query under which the records for a query are filed. -/
def key (cache : Cache) (query : Query) : Query :=
  if cache.normalizeNames then query.normalized else query

/-- The query under which an entry is filed. -/
def keyOf (cache : Cache) (entry : CacheEntry) : Query := cache.key entry.record.query

/-! ## Storing -/

/-- Puts an entry in the place of the one with the same record, or at the end. -/
def store (entry : CacheEntry) : List CacheEntry → List CacheEntry
  | [] => [entry]
  | first :: rest =>
    if first.record = entry.record then entry :: rest else first :: store entry rest

/-- Stores a record at a moment.  A record that is already there is only stored anew. -/
def insert (cache : Cache) (record : Record) (now : Instant) : Cache :=
  { cache with entries := store ⟨record, now⟩ cache.entries }

/-- Stores records one after the other. -/
def insertAll (cache : Cache) (records : List Record) (now : Instant) : Cache :=
  records.foldl (fun cache record => cache.insert record now) cache

/-! ## Finding -/

/-- The entries for a query that have not expired at a moment, in one of the orders allowed: that
in which their records came first. -/
def found (cache : Cache) (query : Query) (now : Instant) : List CacheEntry :=
  cache.entries.filter fun entry => cache.keyOf entry == cache.key query && entry.isLive now

/-- The records for a query that have not expired at a moment. -/
def lookup (cache : Cache) (query : Query) (now : Instant) : List Record :=
  (cache.found query now).map (·.record)

/-- The queries under which records are filed, each once. -/
def keys (cache : Cache) : List Query := (cache.entries.map cache.keyOf).eraseDups

/-- The entries that are filed under a query, expired ones included. -/
def filed (cache : Cache) (key : Query) : List CacheEntry :=
  cache.entries.filter fun entry => cache.keyOf entry == key

/-- The number of stored records, expired ones included. -/
def size (cache : Cache) : Nat := cache.entries.length

/-- No record is stored. -/
def isEmpty (cache : Cache) : Bool := cache.entries.isEmpty

/-! ## What an insertion does -/

/-- After an insertion the entries are the new one and those of other records. -/
theorem mem_store {entry other : CacheEntry} {entries : List CacheEntry}
    (hdistinct : (entries.map (·.record)).Nodup) :
    other ∈ store entry entries ↔
      other = entry ∨ (other ∈ entries ∧ other.record ≠ entry.record) := by
  induction entries with
  | nil => simp [store]
  | cons first rest ih =>
    obtain ⟨hfirst, hrest⟩ := List.nodup_cons.1 hdistinct
    have hne : other ∈ rest → other.record ≠ first.record := fun hmem heq =>
      hfirst (List.mem_map.2 ⟨other, hmem, heq⟩)
    simp only [store]
    split
    · rename_i hsame
      constructor
      · rintro hmem
        rcases List.mem_cons.1 hmem with rfl | hmem
        · exact .inl rfl
        · exact .inr ⟨List.mem_cons_of_mem _ hmem, hsame ▸ hne hmem⟩
      · rintro (rfl | ⟨hmem, hother⟩)
        · exact List.mem_cons_self
        · rcases List.mem_cons.1 hmem with rfl | hmem
          · exact absurd hsame hother
          · exact List.mem_cons_of_mem _ hmem
    · rename_i hdiff
      rw [List.mem_cons, ih hrest, List.mem_cons]
      constructor
      · rintro (rfl | rfl | ⟨hmem, hother⟩)
        · exact .inr ⟨.inl rfl, hdiff⟩
        · exact .inl rfl
        · exact .inr ⟨.inr hmem, hother⟩
      · rintro (rfl | ⟨rfl | hmem, hother⟩)
        · exact .inr (.inl rfl)
        · exact .inl rfl
        · exact .inr (.inr ⟨hmem, hother⟩)

/-- The stored records after an insertion: the new one comes last unless it is there already. -/
theorem map_record_store (entry : CacheEntry) (entries : List CacheEntry) :
    (store entry entries).map (·.record) =
      if entry.record ∈ entries.map (·.record) then entries.map (·.record)
      else entries.map (·.record) ++ [entry.record] := by
  induction entries with
  | nil => simp [store]
  | cons first rest ih =>
    simp only [store]
    split
    · rename_i hsame
      simp [hsame]
    · rename_i hdiff
      have hne : entry.record ≠ first.record := fun h => hdiff h.symm
      simp only [List.map_cons, List.mem_cons, hne, false_or, ih]
      split <;> simp

/-- An insertion stores no record twice. -/
theorem nodup_store {entry : CacheEntry} {entries : List CacheEntry}
    (hdistinct : (entries.map (·.record)).Nodup) :
    ((store entry entries).map (·.record)).Nodup := by
  rw [map_record_store]
  split
  · exact hdistinct
  · rename_i hnew
    rw [List.nodup_append]
    exact ⟨hdistinct, by simp, by rintro a ha b hb rfl; simp at hb; exact hnew (hb ▸ ha)⟩

/-- Inserting keeps the way in which names are filed. -/
@[simp] theorem normalizeNames_insert (cache : Cache) (record : Record) (now : Instant) :
    (cache.insert record now).normalizeNames = cache.normalizeNames := rfl

end Cache

end IterativeDns
