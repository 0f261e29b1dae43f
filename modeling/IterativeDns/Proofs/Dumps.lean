import IterativeDns.Proofs.Insertions
import IterativeDns.Proofs.Layout
import Mathlib.Data.List.Nodup

/-!
# Dumps of the cache

A dump shows what is live in a cache, in groups: one for each key under which a live record is
filed.  The order in which a cache enumerates its records is of no importance here; it may be any.
Expired records stay stored but are not shown, and no group is left without a record, so the line
that stands for no records is never needed.

* `Query.Before` — the order of the groups.
* `Report.dump_eq_flatMap` — a dump is the lines of its groups, one line for each of their entries.
* `Report.mem_flatMap_entries` and `Report.nodup_flatMap_records` — the entries of all groups are
  the live ones, and no record is there twice.
* `Report.dump_shows_live_records` — **a dump shows the live records, all of them and each once.**
-/

namespace IterativeDns

/-! ## The order of queries -/

namespace Query

/-- The first query comes before the second: by the texts of the names, and then by the types. -/
def Before (q r : Query) : Prop :=
  q.name.text < r.name.text ∨ q.name.text = r.name.text ∧ q.type.rank < r.type.rank

variable {q r s : Query}

theorem Before.trans (hqr : q.Before r) (hrs : r.Before s) : q.Before s := by
  rcases hqr with hqr | ⟨hqr, hqr'⟩ <;> rcases hrs with hrs | ⟨hrs, hrs'⟩
  · exact .inl (String.lt_trans hqr hrs)
  · exact .inl (hrs ▸ hqr)
  · exact .inl (hqr ▸ hrs)
  · exact .inr ⟨hqr.trans hrs, Nat.lt_trans hqr' hrs'⟩

theorem Before.ne (h : q.Before r) : q ≠ r := by
  rintro rfl
  rcases h with h | ⟨-, h⟩
  · exact String.lt_irrefl _ h
  · exact Nat.lt_irrefl _ h

theorem eq_of_text_of_rank (htext : q.name.text = r.name.text) (hrank : q.type.rank = r.type.rank) :
    q = r := by
  obtain ⟨⟨text⟩, type⟩ := q
  obtain ⟨⟨text'⟩, type'⟩ := r
  obtain rfl : text = text' := htext
  obtain rfl : type = type' := RecordType.rank_injective hrank
  rfl

theorem le_iff_before_or_eq : q.le r = true ↔ q.Before r ∨ q = r := by
  rw [le, Before]
  by_cases htext : q.name.text = r.name.text
  · have heq : q = r ↔ q.type.rank = r.type.rank := ⟨fun h => h ▸ rfl, eq_of_text_of_rank htext⟩
    have hlt : ¬ q.name.text < r.name.text := htext ▸ String.lt_irrefl _
    rw [if_pos htext, decide_eq_true_eq, heq, or_iff_right hlt, and_iff_right htext]
    exact Nat.le_iff_lt_or_eq
  · have hne : q ≠ r := fun h => htext (h ▸ rfl)
    rw [if_neg htext, decide_eq_true_eq, or_iff_left hne, or_iff_left (htext ·.1)]

theorem le_trans (hqr : q.le r = true) (hrs : r.le s = true) : q.le s = true := by
  rw [le_iff_before_or_eq] at hqr hrs ⊢
  rcases hqr with hqr | rfl
  · rcases hrs with hrs | rfl
    · exact .inl (hqr.trans hrs)
    · exact .inl hqr
  · exact hrs

theorem le_total (q r : Query) : (q.le r || r.le q) = true := by
  rw [le, le]
  by_cases htext : q.name.text = r.name.text
  · rw [if_pos htext, if_pos htext.symm, Bool.or_eq_true, decide_eq_true_eq, decide_eq_true_eq]
    exact Nat.le_total _ _
  · rw [if_neg htext, if_neg (Ne.symm htext), Bool.or_eq_true, decide_eq_true_eq,
      decide_eq_true_eq]
    by_cases hlt : q.name.text < r.name.text
    · exact .inl hlt
    · refine .inr (String.not_le.1 fun hle => ?_)
      exact htext (String.le_antisymm hle (String.not_lt.1 hlt))

end Query

namespace Report

/-! ## Groups -/

/-- A group of a dump: a key, and the entries whose records are shown under it. -/
structure Group where
  /-- The key. -/
  key : Query
  /-- The entries. -/
  entries : List CacheEntry

/-- The lines about a group, one for each entry. -/
def Group.lines (group : Group) : List String :=
  group.entries.map fun entry => recordLine group.key entry.record

/-- Each line is about one entry: the name and the type of the key, and the time to live and the
data of the record. -/
theorem Group.map_words_lines (group : Group) : group.lines.map words =
    group.entries.map fun entry =>
      words group.key.name.shown ++ group.key.type.text.toList ::
        (Text.decimal entry.record.ttl.toNat).toList :: words entry.record.data.text := by
  rw [lines, List.map_map]
  refine List.map_congr_left fun entry _ => ?_
  rw [Function.comp_apply, words_recordLine]

/-- The live entries that are filed under a key, in the order of their data. -/
def liveEntries (cache : Cache) (now : Instant) (key : Query) : List CacheEntry :=
  ((cache.filed key).filter (·.isLive now)).mergeSort fun a b =>
    a.record.data.text ≤ b.record.data.text

/-- The groups of a dump. -/
def groups (cache : Cache) (now : Instant) : List Group :=
  (liveKeys cache now).map fun key => ⟨key, liveEntries cache now key⟩

variable {cache : Cache} {now : Instant} {key : Query} {group : Group} {entry : CacheEntry}

theorem liveRecords_eq_map (cache : Cache) (now : Instant) (key : Query) :
    liveRecords cache now key = (liveEntries cache now key).map (·.record) := by
  rw [liveRecords, liveEntries, List.map_mergeSort]
  exact fun _ _ _ _ => rfl

theorem mem_liveEntries : entry ∈ liveEntries cache now key ↔
    (entry ∈ cache.entries ∧ entry.isLive now = true) ∧ cache.keyOf entry = key := by
  rw [liveEntries, List.mem_mergeSort, List.mem_filter, Cache.mem_filed, and_right_comm]
  exact Iff.rfl

/-- Under a key that is shown something is live. -/
theorem mem_liveKeys : key ∈ liveKeys cache now ↔ liveEntries cache now key ≠ [] := by
  rw [liveKeys, List.mem_mergeSort, List.mem_filter, liveRecords_eq_map]
  simp only [List.isEmpty_map, Bool.not_eq_true', List.isEmpty_eq_false_iff]
  refine and_iff_right_of_imp fun hne => ?_
  obtain ⟨entry, hmem⟩ := List.exists_mem_of_ne_nil _ hne
  obtain ⟨⟨hstored, -⟩, hkey⟩ := mem_liveEntries.1 hmem
  exact Cache.mem_keys.2 ⟨entry, hstored, hkey⟩

theorem mem_groups : group ∈ groups cache now ↔
    group.entries ≠ [] ∧ group.entries = liveEntries cache now group.key := by
  obtain ⟨key, entries⟩ := group
  rw [groups, List.mem_map]
  constructor
  · rintro ⟨key', hkey, h⟩
    obtain ⟨rfl, rfl⟩ := Group.mk.inj h
    exact ⟨mem_liveKeys.1 hkey, rfl⟩
  · rintro ⟨hne, hentries⟩
    obtain rfl : entries = liveEntries cache now key := hentries
    exact ⟨key, mem_liveKeys.2 hne, rfl⟩

/-- **A dump is the lines of its groups.** -/
theorem dump_eq_flatMap (cache : Cache) (now : Instant) :
    dump cache now = (groups cache now).flatMap Group.lines := by
  rw [dump, groups, List.flatMap_map]
  refine List.flatMap_congr fun key hkey => ?_
  have hne : (liveEntries cache now key).map (·.record) ≠ [] := by
    rw [ne_eq, List.map_eq_nil_iff]
    exact mem_liveKeys.1 hkey
  rw [liveRecords_eq_map, results_eq_ite, if_neg hne, List.map_map]
  rfl

/-- The keys under which something is live come in their order, and none comes twice. -/
theorem pairwise_before_liveKeys (cache : Cache) (now : Instant) :
    (liveKeys cache now).Pairwise Query.Before := by
  have hsorted : (liveKeys cache now).Pairwise fun q r => q.le r = true := by
    rw [liveKeys]
    refine List.pairwise_mergeSort (fun _ _ _ => ?_) (fun _ _ => ?_) _
    · exact Query.le_trans
    · exact Query.le_total _ _
  have hdistinct : (liveKeys cache now).Pairwise (· ≠ ·) :=
    (List.mergeSort_perm _ _).nodup_iff.2 ((Cache.nodup_eraseDups _).filter _)
  refine (hsorted.and hdistinct).imp fun ⟨hle, hne⟩ => ?_
  exact (Query.le_iff_before_or_eq.1 hle).resolve_right hne

theorem pairwise_before_groups (cache : Cache) (now : Instant) :
    ((groups cache now).map (·.key)).Pairwise Query.Before := by
  have hmap : (groups cache now).map (·.key) = liveKeys cache now := by
    rw [groups, List.map_map]
    exact List.map_id _
  rw [hmap]
  exact pairwise_before_liveKeys cache now

theorem le_text_trans (a b c : CacheEntry)
    (hab : decide (a.record.data.text ≤ b.record.data.text) = true)
    (hbc : decide (b.record.data.text ≤ c.record.data.text) = true) :
    decide (a.record.data.text ≤ c.record.data.text) = true := by
  simp only [decide_eq_true_eq] at hab hbc ⊢
  exact String.le_trans hab hbc

theorem le_text_total (a b : CacheEntry) :
    (decide (a.record.data.text ≤ b.record.data.text) ||
      decide (b.record.data.text ≤ a.record.data.text)) = true := by
  simp only [Bool.or_eq_true, decide_eq_true_eq]
  exact String.le_total _ _

/-- Live entries come in the order of the texts of their data. -/
theorem pairwise_texts_liveEntries (cache : Cache) (now : Instant) (key : Query) :
    ((liveEntries cache now key).map (·.record.data.text)).Pairwise (· ≤ ·) := by
  rw [List.pairwise_map, liveEntries]
  exact (List.pairwise_mergeSort le_text_trans le_text_total _).imp of_decide_eq_true

theorem pairwise_texts (hgroup : group ∈ groups cache now) :
    (group.entries.map (·.record.data.text)).Pairwise (· ≤ ·) := by
  rw [(mem_groups.1 hgroup).2]
  exact pairwise_texts_liveEntries cache now group.key

/-- The entries of all groups are the live ones. -/
theorem mem_flatMap_entries : entry ∈ (groups cache now).flatMap (·.entries) ↔
    entry ∈ cache.entries ∧ entry.isLive now = true := by
  rw [List.mem_flatMap]
  constructor
  · rintro ⟨group, hgroup, hentry⟩
    rw [(mem_groups.1 hgroup).2] at hentry
    exact (mem_liveEntries.1 hentry).1
  · intro hlive
    have hentry : entry ∈ liveEntries cache now (cache.keyOf entry) :=
      mem_liveEntries.2 ⟨hlive, rfl⟩
    exact ⟨⟨_, _⟩, mem_groups.2 ⟨List.ne_nil_of_mem hentry, rfl⟩, hentry⟩

/-- The key of a record is that of its group. -/
theorem key_of_mem_records {record : Record} (hgroup : group ∈ groups cache now)
    (hrecord : record ∈ group.entries.map (·.record)) : cache.key record.query = group.key := by
  obtain ⟨entry, hentry, rfl⟩ := List.mem_map.1 hrecord
  rw [(mem_groups.1 hgroup).2] at hentry
  exact (mem_liveEntries.1 hentry).2

/-- No record is in two groups, because its key is that of its group, and none is twice in one. -/
theorem nodup_flatMap_records (hdistinct : (cache.entries.map (·.record)).Nodup) :
    (((groups cache now).flatMap (·.entries)).map (·.record)).Nodup := by
  rw [List.map_flatMap, List.nodup_flatMap]
  constructor
  · intro group hgroup
    rw [(mem_groups.1 hgroup).2, liveEntries, Cache.filed, List.filter_filter]
    exact ((List.mergeSort_perm _ _).map _).nodup_iff.2 (Cache.nodup_filter hdistinct _)
  · refine (List.pairwise_map.1 (pairwise_before_groups cache now)).imp_of_mem ?_
    intro group group' hgroup hgroup' hbefore record hrecord hrecord'
    have hkeys : group.key = group'.key := by
      rw [← key_of_mem_records hgroup hrecord, ← key_of_mem_records hgroup' hrecord']
    exact hbefore.ne hkeys

/-! ## What a dump shows -/

/-- **A dump shows the live records, all of them and each once.**  The cache may enumerate what
insertions left in it in any order.  The lines of the dump come in groups, one group for each key
and one line for each entry of a group: its words are the name and type of the key, and the time to
live and the data of the record.  The keys come in their order and none twice, the data in a group
in the order of their texts.  The entries of all groups are the last insertions that have not
expired, none of them twice.  The line about no records is not there; only that of a query whose
name has a space in it may look like the line about a record. -/
theorem dump_shows_live_records (normalizeNames : Bool) (insertions entries : List CacheEntry)
    (now : Instant)
    (hentries : entries.Perm ((Cache.empty normalizeNames).insertEach insertions).entries) :
    let cache : Cache := ⟨normalizeNames, entries⟩
    let keyOf (query : Query) := if normalizeNames then query.normalized else query
    ∃ groups : List Group,
      dump cache now = groups.flatMap Group.lines ∧
      (groups.map (·.key)).Pairwise Query.Before ∧
      (∀ group ∈ groups, group.entries ≠ [] ∧
        (∀ entry ∈ group.entries, keyOf entry.record.query = group.key) ∧
        (group.lines.map words = group.entries.map fun entry =>
          words group.key.name.shown ++ group.key.type.text.toList ::
            (Text.decimal entry.record.ttl.toNat).toList :: words entry.record.data.text) ∧
        (group.entries.map (·.record.data.text)).Pairwise (· ≤ ·) ∧
        placeholder group.key ∉ group.lines) ∧
      ((groups.flatMap (·.entries)).map (·.record)).Nodup ∧
      (∀ entry, entry ∈ groups.flatMap (·.entries) ↔ entry.IsLastOf insertions ∧
        (now - entry.storedAt).toNat < entry.record.ttl.toNat * 1000) ∧
      ∀ query, ' ' ∉ query.name.shown.toList → placeholder query ∉ dump cache now := by
  intro cache keyOf
  have hdistinct : (cache.entries.map (·.record)).Nodup :=
    (hentries.map _).nodup_iff.2 Cache.nodup_insertEach
  refine ⟨groups cache now, dump_eq_flatMap cache now, pairwise_before_groups cache now,
    fun group hgroup =>
      ⟨(mem_groups.1 hgroup).1, fun entry hentry => ?_, group.map_words_lines,
        pairwise_texts hgroup, ?_⟩,
    nodup_flatMap_records hdistinct, fun entry => ?_, fun query hspace hmem => ?_⟩
  · exact key_of_mem_records hgroup (List.mem_map_of_mem hentry)
  · intro hmem
    obtain ⟨entry, -, hline⟩ := List.mem_map.1 hmem
    exact placeholder_ne_recordLine_self group.key entry.record hline.symm
  · rw [mem_flatMap_entries, hentries.mem_iff, Cache.mem_insertEach, CacheEntry.isLive_iff]
    exact Iff.rfl
  · rw [dump_eq_flatMap, List.mem_flatMap] at hmem
    obtain ⟨group, -, hmem⟩ := hmem
    obtain ⟨entry, -, hline⟩ := List.mem_map.1 hmem
    exact placeholder_ne_recordLine hspace group.key entry.record hline.symm

/-- A record that was stored again is shown, and one that lived for a second is not. -/
theorem dump_shows_live_records_storedAgain :
    let www : Record := ⟨⟨"WWW.example.com."⟩, .a, internetClass, 300, .a ⟨192, 0, 2, 1⟩⟩
    let mail : Record := ⟨⟨"example.com"⟩, .mx, internetClass, 1, .mx 10 ⟨"mail.example.com"⟩⟩
    let insertions : List CacheEntry := [⟨www, 0⟩, ⟨mail, 0⟩, ⟨www, 5000⟩]
    let entries : List CacheEntry := [⟨mail, 0⟩, ⟨www, 5000⟩]
    entries.Perm ((Cache.empty true).insertEach insertions).entries ∧
    ∃ groups : List Group, dump ⟨true, entries⟩ 5000 = groups.flatMap Group.lines ∧
      ⟨www, 5000⟩ ∈ groups.flatMap (·.entries) ∧ ⟨mail, 0⟩ ∉ groups.flatMap (·.entries) := by
  intro www mail insertions entries
  have hentries : entries.Perm ((Cache.empty true).insertEach insertions).entries := by
    have hleft : ((Cache.empty true).insertEach insertions).entries =
        [⟨www, 5000⟩, ⟨mail, 0⟩] := by decide +kernel
    rw [hleft]
    exact .swap _ _ []
  obtain ⟨groups, hdump, -, -, -, hshown, -⟩ :=
    dump_shows_live_records true insertions entries 5000 hentries
  refine ⟨hentries, groups, hdump, (hshown _).2 ⟨⟨[⟨www, 0⟩, ⟨mail, 0⟩], [], rfl, ?_⟩, ?_⟩, ?_⟩
  · simp
  · decide
  · intro hmem
    exact absurd ((hshown _).1 hmem).2 (by decide)

example : dump ⟨true, [⟨⟨⟨"example.com"⟩, .a, internetClass, 1, .a ⟨192, 0, 2, 1⟩⟩, 0⟩,
    ⟨⟨⟨"WWW.example.com."⟩, .a, internetClass, 300, .a ⟨192, 0, 2, 2⟩⟩, 0⟩]⟩ 5000 =
    ["www.example.com                A     300      192.0.2.2"] := by
  decide +kernel

end Report

end IterativeDns
