import NatTester.Source.FastHashIndex

/-!
# The hash table is a bounded multimap

Whatever is inserted, removed and reset, the free list and the buckets of a
FastHash share out its nodes, and its answers are those of a list of entries in
which a newer duplicate hides the older ones.
-/
namespace NatTester.Guarantees
open NatTester.Lib NatTester.Source

variable {K V : Type} [FastHashKey K]

/-- The entry a node stands for. -/
def entryOf (h : FastHashBase K V) (x : Nat) : Option (Item K V) := h.itemAt (h.itemnodes x).index

/-- The nodes in the buckets, bucket after bucket. -/
def chained (h : FastHashBase K V) (bucket : Nat → List Nat) : List Nat := (List.range h.tsize).flatMap bucket

/-- The free list is `free` and bucket `t` is `bucket t`; every node is in exactly one of them, once, and every
chained node in the bucket of its key. -/
structure Partitioned (h : FastHashBase K V) (free : List Nat) (bucket : Nat → List Nat) : Prop where
  free_chain : Chain h.pNext h.freelist free
  bucket_chain : ∀ t, t < h.tsize → Chain h.pNext (h.lookuptable t) (bucket t)
  nodes_perm : (free ++ chained h bucket).Perm (List.range h.fsize)
  hashed : ∀ t, t < h.tsize → ∀ x ∈ bucket t, ∃ item, entryOf h x = some item ∧ FastHashKey.hash item.key % h.tsize = t
  size_eq : h.size = (chained h bucket).length

theorem entryOf_live {h : FastHashBase K V} {live free : List Nat} (r : h.Rep live free) :
    ∀ x ∈ live, entryOf h x = h.nodes x :=
  fun _ hx => r.itemAt_eq hx

/-- The nodes in use, sorted into their buckets. -/
theorem rep_partitioned {h : FastHashBase K V} {live free : List Nat} (r : h.Rep live free) (htsize : 0 < h.tsize) :
    ∃ bucket, Partitioned h free bucket ∧ (chained h bucket).Perm live := by
  have hperm : (chained h fun t => live.filter fun x => h.bucketOf x = some t).Perm live := r.byBucket_perm htsize
  refine ⟨fun t => live.filter fun x => h.bucketOf x = some t, ⟨r.free_chain, r.bucket_chain, ?_, ?_, ?_⟩, hperm⟩
  · have hall : (live ++ free).Perm (List.range h.fsize) := by
      rw [List.perm_ext_iff_of_nodup r.nodup List.nodup_range]
      simpa using r.mem_iff
    exact (List.perm_append_comm.trans (hperm.append_right free)).trans hall
  · intro t _ x hx
    have hmem := List.mem_of_mem_filter hx
    obtain ⟨item, hitem⟩ := Option.isSome_iff_exists.mp (r.filled x hmem)
    have hbucket := (List.mem_filter.mp hx).2
    simp only [FastHashBase.bucketOf, hitem, Option.map_some, decide_eq_true_eq] at hbucket
    exact ⟨item, (entryOf_live r x hmem).trans hitem, Option.some.inj hbucket⟩
  · rw [r.size_eq, hperm.length_eq]

theorem stores_partitioned {h : FastHashBase K V} {entries : List (Item K V)} (s : h.Stores entries)
    (htsize : 0 < h.tsize) :
    ∃ free bucket, Partitioned h free bucket ∧ ((chained h bucket).map (entryOf h)).Perm (entries.map some) := by
  obtain ⟨live, free, r, hmap⟩ := s
  obtain ⟨bucket, hpartitioned, hperm⟩ := rep_partitioned r htsize
  refine ⟨free, bucket, hpartitioned, ?_⟩
  rw [← hmap, ← List.map_congr_left (entryOf_live r)]
  exact hperm.map _

/-- A table of at most as many nodes as an `int` can number, freshly initialised on any arrays, after any
insertions, removals and resets. `entries` are the insertions that succeeded and were not removed or reset
since, the newest first. -/
theorem fastHash_is_bounded_multimap [DecidableEq K] {fsize tsize : Nat} (hfsize : fsize ≤ INT_ELEMENTS)
    (htsize : 1 ≤ tsize) (nodes : Nat → Option (Item K V)) (itemnodes : Nat → ItemNode)
    (lookuptable : Nat → Option Nat) (indexlist : Option (Nat → Int32)) (ops : List (Multimap.Op (Item K V) K)) :
    let h := ops.foldl FastHashBase.perform (FastHashBase.init fsize tsize nodes itemnodes lookuptable indexlist)
    let entries := Multimap.after Item.key fsize ops
    (∃ free bucket, Partitioned h free bucket ∧ ((chained h bucket).map (entryOf h)).Perm (entries.map some)) ∧
    h.fsize = fsize ∧ h.tsize = tsize ∧ h.size = entries.length ∧
    (∀ key value, ((h.insert key value).1 = -1 ↔ h.size = fsize) ∧
      ((h.insert key value).1 = -1 → (h.insert key value).2 = h)) ∧
    (∀ key, h.lookup key = (Multimap.find Item.key key entries).map Item.value) ∧
    (∀ key, (∀ item ∈ entries, item.key ≠ key) → h.remove key = (-1, h)) ∧
    ∀ newer item older, entries = newer ++ item :: older → (∀ other ∈ newer, other.key ≠ item.key) →
      (h.remove item.key).1 = 1 ∧ (h.remove item.key).2.Stores (newer ++ older) ∧
      (h.remove item.key).2.lookup item.key = (Multimap.find Item.key item.key older).map Item.value ∧
      ∀ key, key ≠ item.key → (h.remove item.key).2.lookup key = h.lookup key := by
  intro h entries
  have hfresh : (FastHashBase.init fsize tsize nodes itemnodes lookuptable indexlist).Stores [] :=
    FastHashBase.reset_stores _
  obtain ⟨hstores, hfs, hts⟩ := hfresh.foldl ops hfsize htsize
  have hcontents : h.Stores entries := hstores
  have hcapacity : h.fsize = fsize := hfs
  have hwidth : h.tsize = tsize := hts
  have hpos : 0 < h.tsize := by omega
  have hsize := hcontents.size_eq
  have hle := hcontents.length_le
  refine ⟨stores_partitioned hcontents hpos, hcapacity, hwidth, hsize, ?_, hcontents.lookup_eq hpos, ?_, ?_⟩
  · intro key value
    by_cases hfull : entries.length = h.fsize
    · rw [hcontents.insert_full hfull key value]
      exact ⟨⟨fun _ => by omega, fun _ => rfl⟩, fun _ => rfl⟩
    · rw [(hcontents.insert (by omega) (by omega) key value).1]
      exact ⟨⟨fun h => absurd h (by decide), fun _ => by omega⟩, fun h => absurd h (by decide)⟩
  · intro key habsent
    exact hcontents.remove_absent hpos (Multimap.find_eq_none.mpr habsent)
  · intro newer item older hentries hnewer
    have hfound : Multimap.find Item.key item.key entries = some item := by
      rw [hentries, Multimap.find, List.find?_append, List.find?_eq_none.mpr (by simpa using hnewer)]
      simp
    obtain ⟨hres, hnext⟩ := hcontents.remove hpos hfound
    have hpos' : 0 < (h.remove item.key).2.tsize := by simpa using hpos
    refine ⟨hres, ?_, ?_, ?_⟩
    · rwa [hentries, Multimap.without_append rfl hnewer] at hnext
    · rw [hnext.lookup_eq hpos', hentries, Multimap.find_without rfl hnewer]
    · intro key hne
      rw [hnext.lookup_eq hpos', hcontents.lookup_eq hpos, Multimap.find_without_of_ne hne]

/-- Two entries of one key in a table with a single bucket: with the newer one removed, the older one is back. -/
theorem fastHash_is_bounded_multimap_duplicates :
    2 ≤ INT_ELEMENTS ∧ 1 ≤ 1 ∧
    ([Multimap.Op.insert ⟨7, 10⟩, .insert ⟨7, 11⟩, .remove 7].foldl FastHashBase.perform
      (FastHashBase.init 2 1 (fun _ => none) (fun _ => ⟨0, none⟩) (fun _ => none) none :
        FastHashBase UInt16 Nat)).lookup 7 = some 10 := by
  have htwo : 2 ≤ INT_ELEMENTS := by decide
  have hmultimap := fastHash_is_bounded_multimap (K := UInt16) (V := Nat) htwo (Nat.le_refl 1) (fun _ => none)
    (fun _ => ⟨0, none⟩) (fun _ => none) none [.insert ⟨7, 10⟩, .insert ⟨7, 11⟩, .remove 7]
  exact ⟨htwo, Nat.le_refl 1, hmultimap.2.2.2.2.2.1 7⟩

/-! ## More nodes than an int can number -/

/-- A table filled with one entry, as far as an `int` numbers its nodes. -/
theorem stores_replicate [DecidableEq K] {h : FastHashBase K V} (s : h.Stores []) {n : Nat} (hn : n ≤ h.fsize)
    (hint : n ≤ INT_ELEMENTS) (item : Item K V) :
    ((List.replicate n (Multimap.Op.insert item)).foldl FastHashBase.perform h).Stores (List.replicate n item) ∧
      ((List.replicate n (Multimap.Op.insert item)).foldl FastHashBase.perform h).fsize = h.fsize ∧
      ((List.replicate n (Multimap.Op.insert item)).foldl FastHashBase.perform h).tsize = h.tsize := by
  induction n with
  | zero => exact ⟨s, rfl, rfl⟩
  | succ n ih =>
    obtain ⟨hstores, hfs, hts⟩ := ih (Nat.le_of_succ_le hn) (Nat.le_of_succ_le hint)
    rw [List.replicate_succ', List.foldl_append, List.foldl_cons, List.foldl_nil]
    refine ⟨?_, (FastHashBase.perform_fsize ..).trans hfs, (FastHashBase.perform_tsize ..).trans hts⟩
    refine (hstores.insert ?_ ?_ item.key item.value).2
    · rw [List.length_replicate, hfs]
      exact hn
    · rw [List.length_replicate]
      exact hint

/-- `n` entries of one key, and then one of another key. -/
def manyAndOneMore (n : Nat) : List (Item UInt16 Nat) := List.replicate n ⟨7, 10⟩ ++ [⟨8, 11⟩]

theorem after_manyAndOneMore (n : Nat) :
    Multimap.after Item.key (n + 1) ((manyAndOneMore n).map Multimap.Op.insert) =
      ⟨8, 11⟩ :: List.replicate n ⟨7, 10⟩ := by
  rw [manyAndOneMore, List.map_append, List.map_replicate, List.map_singleton, Multimap.after_concat,
    Multimap.after_replicate Item.key (Nat.le_succ n), Multimap.apply, List.length_replicate, if_pos (Nat.lt_succ_self n)]

variable {n : Nat} {h : FastHashBase UInt16 Nat}

/-- The entry that comes when all numbers of an `int` are given away is counted and cannot be found. -/
theorem manyAndOneMore_lost (hn : n = INT_ELEMENTS) (s : h.Stores []) (hfsize : h.fsize = n + 1) (htsize : 0 < h.tsize) :
    (((manyAndOneMore n).map Multimap.Op.insert).foldl FastHashBase.perform h).size = n + 1 ∧
      (((manyAndOneMore n).map Multimap.Op.insert).foldl FastHashBase.perform h).lookup 8 = none := by
  obtain ⟨hstores, hfs, hts⟩ := stores_replicate s (by omega : n ≤ h.fsize) (Nat.le_of_eq hn) ⟨7, 10⟩
  rw [manyAndOneMore, List.map_append, List.map_replicate, List.map_singleton, List.foldl_append, List.foldl_cons,
    List.foldl_nil]
  obtain ⟨-, hsize, hlookup⟩ := hstores.insert_wrapped (by rw [List.length_replicate, hfs]; omega)
    (List.length_replicate.trans hn) (by rwa [hts]) 8 11
  have habsent : ∀ item ∈ List.replicate n (⟨7, 10⟩ : Item UInt16 Nat), item.key ≠ 8 := by
    intro item hitem
    rw [List.eq_of_mem_replicate hitem]
    decide
  refine ⟨hsize.trans ?_, (hlookup 8).trans ?_⟩
  · rw [hstores.size_eq, List.length_replicate]
  · rw [hstores.lookup_eq (by rwa [hts]), Multimap.find_eq_none.mpr habsent]
    rfl

theorem manyAndOneMore_counted (hn : n = INT_ELEMENTS) :
    let h := ((manyAndOneMore n).map Multimap.Op.insert).foldl FastHashBase.perform
      (FastHashBase.init (n + 1) 1 (fun _ => none) (fun _ => ⟨0, none⟩) (fun _ => none) none)
    let entries := Multimap.after Item.key (n + 1) ((manyAndOneMore n).map Multimap.Op.insert)
    Multimap.find Item.key 8 entries = some ⟨8, 11⟩ ∧ h.size = entries.length ∧ h.lookup 8 = none := by
  intro h entries
  have hfresh : (FastHashBase.init (n + 1) 1 (fun _ => none) (fun _ => ⟨0, none⟩) (fun _ => none) none :
      FastHashBase UInt16 Nat).Stores [] := FastHashBase.reset_stores _
  have hentries : entries = ⟨8, 11⟩ :: List.replicate n ⟨7, 10⟩ := after_manyAndOneMore n
  obtain ⟨hsize, hlookup⟩ := manyAndOneMore_lost hn hfresh rfl Nat.one_pos
  refine ⟨?_, ?_, hlookup⟩
  · rw [hentries]
    exact List.find?_cons_of_pos rfl
  · rw [hentries, List.length_cons, List.length_replicate]
    exact hsize

/-- In a table with one node more than an `int` can number, the last of as many entries is not found. -/
theorem fastHash_beyond_int :
    let h := ((manyAndOneMore INT_ELEMENTS).map Multimap.Op.insert).foldl FastHashBase.perform
      (FastHashBase.init (INT_ELEMENTS + 1) 1 (fun _ => none) (fun _ => ⟨0, none⟩) (fun _ => none) none)
    let entries := Multimap.after Item.key (INT_ELEMENTS + 1) ((manyAndOneMore INT_ELEMENTS).map Multimap.Op.insert)
    Multimap.find Item.key 8 entries = some ⟨8, 11⟩ ∧ h.size = entries.length ∧ h.lookup 8 = none :=
  manyAndOneMore_counted rfl

end NatTester.Guarantees
