import IterativeDns.Proofs.Dumps
import Mathlib.Data.List.Forall2

/-!
# The order of a dump

A cache has no order of its own: whoever enumerates its records may meet them in any order.  A dump
sorts them by their keys, and under each key by the texts of their data, but that does not tell all
records apart.  Records under one key may have the same text of data and different times to live,
and then their lines come in the order in which the cache enumerates them.

* `Cache.MayEnumerate` — the orders in which the contents of a cache may be enumerated.
* `Report.Group.Reorders` — all that another order changes in a dump: where ties come in a group.
* `Report.Tied` — two live records have different lines that a dump does not put in order.
* `Report.dump_determined_iff` — **a dump is determined by the contents of the cache exactly if
  there are no such records.**
-/

namespace IterativeDns

/-! ## Orders of enumeration -/

namespace Cache

/-- The contents of the cache may be enumerated in this order.  The cache may have come to them by
any insertions, and enumerates what these left in it in any order. -/
def MayEnumerate (cache : Cache) (entries : List CacheEntry) : Prop :=
  ∃ insertions,
    (∀ entry, entry ∈ ((empty cache.normalizeNames).insertEach insertions).entries ↔
      entry ∈ cache.entries) ∧
    entries.Perm ((empty cache.normalizeNames).insertEach insertions).entries

theorem normalizeNames_insertEach (cache : Cache) (insertions : List CacheEntry) :
    (cache.insertEach insertions).normalizeNames = cache.normalizeNames := by
  induction insertions generalizing cache with
  | nil => rfl
  | cons first insertions ih => exact ih (cache.insert first.record first.storedAt)

/-- No record is stored twice, so the same contents are the same entries in another order. -/
theorem mayEnumerate_insertEach_iff {normalizeNames : Bool} {insertions entries : List CacheEntry} :
    ((empty normalizeNames).insertEach insertions).MayEnumerate entries ↔
      entries.Perm ((empty normalizeNames).insertEach insertions).entries := by
  rw [MayEnumerate, normalizeNames_insertEach]
  constructor
  · rintro ⟨insertions', hsame, hentries⟩
    refine hentries.trans ((List.perm_ext_iff_of_nodup ?_ ?_).2 hsame)
    · exact nodup_insertEach.of_map
    · exact nodup_insertEach.of_map
  · intro hentries
    exact ⟨insertions, fun _ => Iff.rfl, hentries⟩

end Cache

namespace Report

variable {cache other : Cache} {now : Instant} {key : Query} {entry entry' : CacheEntry}

/-! ## What another order changes -/

/-- The groups have the same key and the same entries, and in both the texts of the data come in the
same order.  So they differ at most in the order of entries with the same text. -/
structure Group.Reorders (group other : Group) : Prop where
  key : group.key = other.key
  entries : group.entries.Perm other.entries
  texts : group.entries.map (·.record.data.text) = other.entries.map (·.record.data.text)

section Orders

variable (hsetting : cache.normalizeNames = other.normalizeNames)
  (hentries : cache.entries.Perm other.entries)

include hsetting in
theorem keyOf_congr : cache.keyOf = other.keyOf := by
  funext entry
  rw [Cache.keyOf, Cache.keyOf, Cache.key, Cache.key, hsetting]

include hsetting hentries

theorem liveEntries_perm (now : Instant) (key : Query) :
    (liveEntries cache now key).Perm (liveEntries other now key) := by
  have hfiled : (cache.filed key).Perm (other.filed key) := by
    rw [Cache.filed, Cache.filed, keyOf_congr hsetting]
    exact hentries.filter _
  exact (List.mergeSort_perm _ _).trans ((hfiled.filter _).trans (List.mergeSort_perm _ _).symm)

/-- The keys come in their order and none comes twice, so there is one list of them. -/
theorem liveKeys_congr (now : Instant) : liveKeys cache now = liveKeys other now := by
  have hdistinct : ∀ cache, (liveKeys cache now).Nodup := fun cache =>
    (pairwise_before_liveKeys cache now).imp Query.Before.ne
  have hkeys : (liveKeys cache now).Perm (liveKeys other now) := by
    refine (List.perm_ext_iff_of_nodup (hdistinct cache) (hdistinct other)).2 fun key => ?_
    rw [mem_liveKeys, mem_liveKeys, ← List.length_pos_iff, ← List.length_pos_iff,
      (liveEntries_perm hsetting hentries now key).length_eq]
  refine hkeys.eq_of_pairwise (fun q r _ _ hqr hrq => ?_) (pairwise_before_liveKeys cache now)
    (pairwise_before_liveKeys other now)
  exact absurd rfl (hqr.trans hrq).ne

/-- The texts under a key come in their order, so there is one list of them. -/
theorem texts_congr (now : Instant) (key : Query) :
    (liveEntries cache now key).map (·.record.data.text) =
      (liveEntries other now key).map (·.record.data.text) := by
  refine ((liveEntries_perm hsetting hentries now key).map _).eq_of_pairwise
    (fun _ _ _ _ => String.le_antisymm) (pairwise_texts_liveEntries cache now key)
    (pairwise_texts_liveEntries other now key)

theorem reorders_groups (now : Instant) :
    List.Forall₂ Group.Reorders (groups cache now) (groups other now) := by
  rw [groups, groups, liveKeys_congr hsetting hentries, List.forall₂_map_left_iff,
    List.forall₂_map_right_iff]
  exact List.forall₂_same.2 fun key _ =>
    ⟨rfl, liveEntries_perm hsetting hentries now key, texts_congr hsetting hentries now key⟩

end Orders

/-! ## Ties -/

/-- Two live records under one key have the same text of data, but different times to live. -/
structure Tied (cache : Cache) (now : Instant) (entry other : CacheEntry) : Prop where
  stored : entry ∈ cache.entries ∧ other ∈ cache.entries
  live : entry.isLive now = true ∧ other.isLive now = true
  key : cache.keyOf entry = cache.keyOf other
  text : entry.record.data.text = other.record.data.text
  ttl : entry.record.ttl ≠ other.record.ttl

/-- The lines about two records with the same text of data differ if their times to live do. -/
theorem ttl_eq_of_recordLine_eq {record record' : Record}
    (htext : record.data.text = record'.data.text)
    (h : recordLine key record = recordLine key record') : record.ttl = record'.ttl := by
  have hwords := congrArg words h
  rw [words_recordLine, words_recordLine, htext] at hwords
  have htail := (List.cons.inj (List.append_cancel_left hwords)).2
  have hdecimal : Text.decimal record.ttl.toNat = Text.decimal record'.ttl.toNat :=
    String.toList_inj.1 (List.cons.inj htail).1
  exact UInt32.toNat_inj.1 (Text.decimal_inj hdecimal)

/-- Sorting keeps entries with the same text in the order in which they came: they are in order as
they are, so all of them are found in this order in the sorted list. -/
theorem filter_mergeSort_text (entries : List CacheEntry) (text : String) :
    (entries.mergeSort fun a b => a.record.data.text ≤ b.record.data.text).filter
        (·.record.data.text == text) =
      entries.filter (·.record.data.text == text) := by
  have hties : (entries.filter (·.record.data.text == text)).Pairwise
      fun a b => decide (a.record.data.text ≤ b.record.data.text) = true := by
    refine List.pairwise_of_forall_mem_list fun a ha b hb => ?_
    have hatext : a.record.data.text = text := by simpa using (List.mem_filter.1 ha).2
    have hbtext : b.record.data.text = text := by simpa using (List.mem_filter.1 hb).2
    rw [hatext, hbtext]
    exact decide_eq_true (String.le_refl _)
  have hsublist := (List.sublist_mergeSort le_text_trans le_text_total hties
    List.filter_sublist).filter (·.record.data.text == text)
  rw [List.filter_filter, List.filter_congr fun _ _ => Bool.and_self _] at hsublist
  refine (hsublist.eq_of_length ?_).symm
  exact (((List.mergeSort_perm entries _).filter _).length_eq).symm

/-- What a line shows of an entry, besides the key. -/
def columns (entry : CacheEntry) : String × UInt32 := (entry.record.data.text, entry.record.ttl)

theorem pairwise_columns (cache : Cache) (now : Instant) (key : Query) :
    ((liveEntries cache now key).map columns).Pairwise fun a b => a.1 ≤ b.1 :=
  List.pairwise_map.2 (List.pairwise_map.1 (pairwise_texts_liveEntries cache now key))

theorem lines_eq_map_columns (key : Query) (entries : List CacheEntry) :
    Group.lines ⟨key, entries⟩ =
      (entries.map columns).map fun (text, ttl) => line key (Text.decimal ttl.toNat) text := by
  rw [List.map_map]
  rfl

/-- Without ties no line changes its place: the columns under a key come in the order of the texts,
and there is one time to live for each text. -/
theorem dump_congr_of_not_tied (hsetting : cache.normalizeNames = other.normalizeNames)
    (hentries : cache.entries.Perm other.entries)
    (hties : ∀ entry entry', ¬ Tied cache now entry entry') : dump cache now = dump other now := by
  have hcolumns : ∀ key,
      (liveEntries cache now key).map columns = (liveEntries other now key).map columns := by
    intro key
    have hperm := liveEntries_perm hsetting hentries now key
    refine (hperm.map columns).eq_of_pairwise ?_ (pairwise_columns cache now key)
      (pairwise_columns other now key)
    intro a b ha hb hab hba
    obtain ⟨entry, hentry, rfl⟩ := List.mem_map.1 ha
    obtain ⟨entry', hentry', rfl⟩ := List.mem_map.1 hb
    obtain ⟨⟨hstored, hlive⟩, hkey⟩ := mem_liveEntries.1 hentry
    obtain ⟨⟨hstored', hlive'⟩, hkey'⟩ := mem_liveEntries.1 (hperm.mem_iff.2 hentry')
    have htext : entry.record.data.text = entry'.record.data.text := String.le_antisymm hab hba
    have httl : entry.record.ttl = entry'.record.ttl := by
      by_contra hne
      have hsame : cache.keyOf entry = cache.keyOf entry' := hkey.trans hkey'.symm
      exact hties entry entry' ⟨⟨hstored, hstored'⟩, ⟨hlive, hlive'⟩, hsame, htext, hne⟩
    exact Prod.ext htext httl
  rw [dump_eq_flatMap, dump_eq_flatMap, groups, groups, liveKeys_congr hsetting hentries,
    List.flatMap_map, List.flatMap_map]
  refine List.flatMap_congr fun key _ => ?_
  rw [lines_eq_map_columns, lines_eq_map_columns, hcolumns]

/-- Equal concatenations of equally long pieces have equal pieces. -/
theorem eq_of_flatMap_eq {α β : Type} {f g : α → List β} {items : List α}
    (hlength : ∀ item ∈ items, (f item).length = (g item).length)
    (h : items.flatMap f = items.flatMap g) : ∀ item ∈ items, f item = g item := by
  induction items with
  | nil => simp
  | cons first items ih =>
    obtain ⟨hfirst, hitems⟩ := List.forall_mem_cons.1 hlength
    rw [List.flatMap_cons, List.flatMap_cons] at h
    obtain ⟨hsame, hrest⟩ := List.append_inj h hfirst
    exact List.forall_mem_cons.2 ⟨hsame, ih hitems hrest⟩

/-- If two orders give one dump, they give the same lines under each key. -/
theorem lines_eq_of_dump_eq (hsetting : cache.normalizeNames = other.normalizeNames)
    (hentries : cache.entries.Perm other.entries) (h : dump cache now = dump other now)
    (hkey : key ∈ liveKeys cache now) :
    Group.lines ⟨key, liveEntries cache now key⟩ =
      Group.lines ⟨key, liveEntries other now key⟩ := by
  rw [dump_eq_flatMap, dump_eq_flatMap, groups, groups, ← liveKeys_congr hsetting hentries,
    List.flatMap_map, List.flatMap_map] at h
  refine eq_of_flatMap_eq (fun key _ => ?_) h key hkey
  rw [Group.lines, Group.lines, List.length_map, List.length_map]
  exact (liveEntries_perm hsetting hentries now key).length_eq

/-- If two orders give one dump, the first entries with a text that come in them under a key have
the same time to live. -/
theorem ttl_eq_of_dump_eq (hsetting : cache.normalizeNames = other.normalizeNames)
    (hentries : cache.entries.Perm other.entries) (h : dump cache now = dump other now)
    {text : String} {rest rest' : List CacheEntry}
    (hfirst : ((cache.filed key).filter (·.isLive now)).filter (·.record.data.text == text) =
      entry :: rest)
    (hfirst' : ((other.filed key).filter (·.isLive now)).filter (·.record.data.text == text) =
      entry' :: rest') : entry.record.ttl = entry'.record.ttl := by
  rw [← filter_mergeSort_text] at hfirst hfirst'
  have hmem : entry ∈ (liveEntries cache now key).filter (·.record.data.text == text) :=
    hfirst ▸ List.mem_cons_self
  have hkey : key ∈ liveKeys cache now :=
    mem_liveKeys.2 (List.ne_nil_of_mem (List.mem_of_mem_filter hmem))
  have hlines := lines_eq_of_dump_eq hsetting hentries h hkey
  have htexts := texts_congr hsetting hentries now key
  -- Line by line, the texts say which lines belong to the text.
  have hboth := congrArg₂ List.zip htexts hlines
  rw [Group.lines, Group.lines, List.zip_map', List.zip_map'] at hboth
  have hfiltered := congrArg (List.filter fun row => row.1 == text) hboth
  rw [List.filter_map, List.filter_map] at hfiltered
  have hheads : (entry :: rest).map (fun entry =>
        (entry.record.data.text, recordLine key entry.record)) =
      (entry' :: rest').map fun entry => (entry.record.data.text, recordLine key entry.record) := by
    rw [← hfirst, ← hfirst']
    exact hfiltered
  obtain ⟨htext, hline⟩ := Prod.mk.inj (List.cons.inj hheads).1
  exact ttl_eq_of_recordLine_eq htext hline

/-- An entry that comes before all others comes first among those with its key and text. -/
theorem exists_filter_cons {normalizeNames : Bool} {text : String} (rest : List CacheEntry)
    (hkey : (⟨normalizeNames, entry :: rest⟩ : Cache).keyOf entry = key)
    (hlive : entry.isLive now = true) (htext : entry.record.data.text = text) :
    ∃ rest', (((⟨normalizeNames, entry :: rest⟩ : Cache).filed key).filter (·.isLive now)).filter
      (·.record.data.text == text) = entry :: rest' := by
  simp [Cache.filed, hkey, hlive, htext]

/-- Of two tied entries either may come first, and then the dumps differ. -/
theorem Tied.dump_ne (htied : Tied cache now entry entry') (rest : List CacheEntry) :
    dump ⟨cache.normalizeNames, entry :: entry' :: rest⟩ now ≠
      dump ⟨cache.normalizeNames, entry' :: entry :: rest⟩ now := by
  intro h
  have hkey : (⟨cache.normalizeNames, entry :: entry' :: rest⟩ : Cache).keyOf entry =
    cache.keyOf entry := rfl
  obtain ⟨others, hfirst⟩ := exists_filter_cons (entry' :: rest) hkey htied.live.1 rfl
  obtain ⟨others', hfirst'⟩ := exists_filter_cons (entry :: rest) htied.key.symm htied.live.2
    htied.text.symm
  have hswap : (entry :: entry' :: rest).Perm (entry' :: entry :: rest) := .swap _ _ _
  exact htied.ttl (ttl_eq_of_dump_eq (by rfl) hswap h hfirst hfirst')

/-- Tied entries may be brought to the front, so with them not all orders give one dump. -/
theorem not_tied_of_dump_eq
    (h : ∀ entries, entries.Perm cache.entries →
      dump cache now = dump ⟨cache.normalizeNames, entries⟩ now) :
    ¬ Tied cache now entry entry' := by
  intro htied
  have hne : entry' ≠ entry := fun hsame => htied.ttl (hsame ▸ rfl)
  let rest := (cache.entries.erase entry).erase entry'
  have horder : (entry :: entry' :: rest).Perm cache.entries := by
    have hrest := List.perm_cons_erase ((List.mem_erase_of_ne hne).2 htied.stored.2)
    exact ((List.perm_cons_erase htied.stored.1).trans (hrest.cons entry)).symm
  have hswap : (entry' :: entry :: rest).Perm cache.entries := (List.Perm.swap _ _ _).trans horder
  exact htied.dump_ne rest ((h _ horder).symm.trans (h _ hswap))

/-- **A dump is determined by the contents of the cache exactly if there are no ties.**  Whatever
insertions led to the contents, and in whatever order the cache enumerates them, the dump has the
same groups with the same entries, and at most those with the same text of data change places in a
group.  It has the same lines in the same order exactly if no two live records under one key have
the same text of data and different times to live. -/
theorem dump_determined_iff (normalizeNames : Bool) (insertions : List CacheEntry) (now : Instant) :
    let cache := (Cache.empty normalizeNames).insertEach insertions
    (∀ entries, cache.MayEnumerate entries →
      ∃ groups groups' : List Group, dump cache now = groups.flatMap Group.lines ∧
        dump ⟨normalizeNames, entries⟩ now = groups'.flatMap Group.lines ∧
        List.Forall₂ Group.Reorders groups groups') ∧
    ((∀ entries, cache.MayEnumerate entries →
        dump cache now = dump ⟨normalizeNames, entries⟩ now) ↔
      ∀ entry entry', ¬ Tied cache now entry entry') := by
  intro cache
  have hsetting : cache.normalizeNames = normalizeNames := Cache.normalizeNames_insertEach _ _
  refine ⟨fun entries hentries => ?_, fun h entry entry' => ?_, fun hties entries hentries => ?_⟩
  · have horder := Cache.mayEnumerate_insertEach_iff.1 hentries
    exact ⟨_, _, dump_eq_flatMap cache now, dump_eq_flatMap _ now,
      reorders_groups hsetting horder.symm now⟩
  · refine not_tied_of_dump_eq fun entries horder => ?_
    rw [hsetting]
    exact h entries (Cache.mayEnumerate_insertEach_iff.2 horder)
  · have horder := Cache.mayEnumerate_insertEach_iff.1 hentries
    exact dump_congr_of_not_tied hsetting horder.symm hties

/-- Two spellings of one name are different records, but their lines are the same, so the dump does
not show which came first. -/
theorem dump_determined_iff_spellings :
    let lower : Record := ⟨⟨"example.com"⟩, .a, internetClass, 300, .a ⟨192, 0, 2, 1⟩⟩
    let upper : Record := ⟨⟨"EXAMPLE.com."⟩, .a, internetClass, 300, .a ⟨192, 0, 2, 1⟩⟩
    let cache := (Cache.empty true).insertEach [⟨lower, 0⟩, ⟨upper, 0⟩]
    cache.size = 2 ∧ cache.MayEnumerate [⟨upper, 0⟩, ⟨lower, 0⟩] ∧
      dump cache 0 = dump ⟨true, [⟨upper, 0⟩, ⟨lower, 0⟩]⟩ 0 := by
  intro lower upper cache
  have hentries : cache.entries = [⟨lower, 0⟩, ⟨upper, 0⟩] := by decide +kernel
  have horder : cache.MayEnumerate [⟨upper, 0⟩, ⟨lower, 0⟩] := by
    refine Cache.mayEnumerate_insertEach_iff.2 ?_
    rw [show ((Cache.empty true).insertEach _).entries = _ from hentries]
    exact .swap _ _ _
  refine ⟨congrArg List.length hentries, horder, ?_⟩
  refine ((dump_determined_iff true _ 0).2.2 fun entry entry' htied => htied.ttl ?_) _ horder
  have httl : ∀ entry ∈ cache.entries, entry.record.ttl = 300 := by
    rw [hentries]
    decide
  rw [httl _ htied.stored.1, httl _ htied.stored.2]

/-- The same address with two times to live: which line comes first depends on which record came
first. -/
theorem dump_depends_on_order :
    let ninety : Record := ⟨⟨"www.example.com"⟩, .a, internetClass, 90, .a ⟨192, 0, 2, 1⟩⟩
    let sixty : Record := ⟨⟨"www.example.com"⟩, .a, internetClass, 60, .a ⟨192, 0, 2, 1⟩⟩
    let cache := (Cache.empty true).insertEach [⟨ninety, 0⟩, ⟨sixty, 0⟩]
    let other := (Cache.empty true).insertEach [⟨sixty, 0⟩, ⟨ninety, 0⟩]
    (∀ entry, entry ∈ cache.entries ↔ entry ∈ other.entries) ∧ dump cache 0 ≠ dump other 0 := by
  intro ninety sixty cache other
  have hcache : cache = ⟨true, [⟨ninety, 0⟩, ⟨sixty, 0⟩]⟩ := by decide +kernel
  have hother : other = ⟨true, [⟨sixty, 0⟩, ⟨ninety, 0⟩]⟩ := by decide +kernel
  have htied : Tied cache 0 ⟨ninety, 0⟩ ⟨sixty, 0⟩ := by
    rw [hcache]
    exact ⟨by simp, by decide +kernel, rfl, rfl, by decide⟩
  constructor
  · intro entry
    rw [hcache, hother]
    exact (List.Perm.swap _ _ _).mem_iff
  · have hne := htied.dump_ne []
    rw [hcache] at hne
    rwa [hcache, hother]

end Report

end IterativeDns
