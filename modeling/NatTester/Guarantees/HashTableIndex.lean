import NatTester.Guarantees.HashTable

/-!
# Index access enumerates the live entries

Between insertions, removals and resets the index list is kept, invalidated and
rebuilt; `LookupByIndex` finds every live entry at exactly one index all the same.
-/
namespace NatTester.Guarantees
open NatTester.Lib NatTester.Source

variable {K V : Type} [FastHashKey K] [DecidableEq K]

inductive FastHashCall (K V : Type) where
  | insert (item : Item K V)
  | remove (key : K)
  | reset
  | lookupByIndex (index : Nat)

/-- The live entries, the newest first, and whether none has been removed since there was none. -/
structure LiveEntries (K V : Type) where
  entries : List (Item K V)
  undisturbed : Bool

namespace FastHashCall

def run (h : FastHashBase K V) : FastHashCall K V → FastHashBase K V
  | insert item => (h.insert item.key item.value).2
  | remove key => (h.remove key).2
  | reset => h.reset
  | lookupByIndex index => (h.lookupByIndex index).2

omit [FastHashKey K] in
def track (fsize : Nat) (l : LiveEntries K V) : FastHashCall K V → LiveEntries K V
  | insert item => { l with entries := Multimap.apply Item.key fsize l.entries (.insert item) }
  | remove key =>
    let entries := Multimap.apply Item.key fsize l.entries (.remove key)
    ⟨entries, if (Multimap.find Item.key key l.entries).isSome then entries.isEmpty else l.undisturbed⟩
  | reset => ⟨[], true⟩
  | lookupByIndex _ => l

end FastHashCall

/-- The table holds the live entries, and its index enumerates them where it is valid. -/
def Tracks (h : FastHashBase K V) (l : LiveEntries K V) : Prop :=
  ∃ live free, h.Rep live free ∧ live.map h.nodes = l.entries.map some ∧ h.Indexes live l.undisturbed

variable {h : FastHashBase K V} {l : LiveEntries K V}

omit [DecidableEq K] in
theorem Tracks.stores (t : Tracks h l) : h.Stores l.entries := by
  obtain ⟨live, free, r, hmap, -⟩ := t
  exact ⟨live, free, r, hmap⟩

theorem Tracks.insert (t : Tracks h l) (item : Item K V) :
    Tracks ((FastHashCall.insert item).run h) ((FastHashCall.insert item).track h.fsize l) := by
  have hlength := t.stores.size_eq
  have hle := t.stores.length_le
  have hfull := t.stores.insert_full
  obtain ⟨live, free, r, hmap, ix⟩ := t
  have hlive := r.size_eq
  have hint := ix.int
  simp only [FastHashCall.run, FastHashCall.track, Multimap.apply]
  split
  next hroom =>
    obtain ⟨x, rest, rfl, -, r', hmap'⟩ := r.insert_room (by omega) (by omega) item.key item.value
    exact ⟨x :: live, rest, r', by rw [hmap', hmap, List.map_cons], ix.insert r item.key item.value⟩
  next hno =>
    rw [hfull (by omega)]
    exact ⟨live, free, r, hmap, ix⟩

theorem Tracks.remove (t : Tracks h l) (htsize : 0 < h.tsize) (key : K) :
    Tracks ((FastHashCall.remove key).run h) ((FastHashCall.remove key).track h.fsize l) := by
  have habsent : Multimap.find Item.key key l.entries = none → h.remove key = (-1, h) := t.stores.remove_absent htsize
  obtain ⟨live, free, r, hmap, ix⟩ := t
  simp only [FastHashCall.run, FastHashCall.track, Multimap.apply]
  cases hfound : Multimap.find Item.key key l.entries with
  | none =>
    rw [habsent hfound, Multimap.without_eq_self hfound]
    exact ⟨live, free, r, hmap, ix⟩
  | some item =>
    obtain ⟨newer, older, hentries, hkey, hnewer⟩ := Multimap.find_eq_some hfound
    rw [hentries] at hmap
    obtain ⟨newerNodes, x, olderNodes, rfl, hnewerNodes, hnode, holder⟩ := FastHashBase.map_nodes_split hmap
    have hnewest := FastHashBase.newest_eq_none_of_map hnewerNodes hnewer
    obtain ⟨-, r', hnodes⟩ := r.remove htsize hnode hkey hnewest
    have hmap' : (newerNodes ++ olderNodes).map h.nodes = (newer ++ older).map some := by
      rw [List.map_append, List.map_append, hnewerNodes, holder]
    have hempty : (newerNodes ++ olderNodes).isEmpty = (newer ++ older).isEmpty := by
      rw [← List.isEmpty_map, hmap', List.isEmpty_map]
    have ix' := ix.remove r htsize hnode hkey hnewest
    rw [hempty] at ix'
    simp only [Option.isSome_some, if_true]
    rw [hentries, Multimap.without_append hkey hnewer]
    exact ⟨newerNodes ++ olderNodes, x :: free, r', by rw [hnodes, hmap'], ix'⟩

theorem Tracks.lookupByIndex (t : Tracks h l) (htsize : 0 < h.tsize) (index : Nat) :
    Tracks ((FastHashCall.lookupByIndex index).run h) l := by
  obtain ⟨live, free, r, hmap, ix⟩ := t
  obtain ⟨order, -, -, hfinds⟩ := ix.lookupByIndex r htsize
  obtain ⟨-, -, hindexes, indexlist, fIndexValid, indexStart, hsame⟩ := hfinds index
  refine ⟨live, free, ?_, ?_, hindexes⟩
  · rw [FastHashCall.run, hsame]
    exact r.withIndex _ _ _
  · rw [FastHashCall.run, hsame]
    exact hmap

/-- Every call keeps the table and its contents together, and the sizes. -/
theorem Tracks.run (t : Tracks h l) (htsize : 0 < h.tsize) (call : FastHashCall K V) :
    Tracks (call.run h) (call.track h.fsize l) ∧ (call.run h).fsize = h.fsize ∧ (call.run h).tsize = h.tsize := by
  cases call with
  | insert item => exact ⟨t.insert item, FastHashBase.insert_fsize .., FastHashBase.insert_tsize ..⟩
  | remove key => exact ⟨t.remove htsize key, FastHashBase.remove_fsize .., FastHashBase.remove_tsize ..⟩
  | reset =>
    obtain ⟨live, free, r, -, ix⟩ := t
    have hfsize : 0 < h.fsize := Nat.lt_of_le_of_lt (Nat.zero_le _) ix.start_lt
    exact ⟨⟨[], _, FastHashBase.reset_rep h, rfl, FastHashBase.reset_indexes h ix.int ix.list hfsize⟩, rfl, rfl⟩
  | lookupByIndex index =>
    refine ⟨t.lookupByIndex htsize index, ?_⟩
    obtain ⟨live, free, r, -, ix⟩ := t
    obtain ⟨order, -, -, hfinds⟩ := ix.lookupByIndex r htsize
    obtain ⟨-, -, -, indexlist, fIndexValid, indexStart, hsame⟩ := hfinds index
    rw [FastHashCall.run, hsame]
    exact ⟨rfl, rfl⟩

theorem Tracks.foldl (calls : List (FastHashCall K V)) (t : Tracks h l) (htsize : 0 < h.tsize) :
    Tracks (calls.foldl FastHashCall.run h) (calls.foldl (FastHashCall.track h.fsize) l) ∧
      (calls.foldl FastHashCall.run h).fsize = h.fsize ∧ (calls.foldl FastHashCall.run h).tsize = h.tsize := by
  induction calls generalizing h l with
  | nil => exact ⟨t, rfl, rfl⟩
  | cons call calls ih =>
    obtain ⟨hnext, hfs, hts⟩ := t.run htsize call
    have hrest := ih hnext (by rwa [hts])
    rwa [hfs, hts] at hrest

omit [FastHashKey K] [DecidableEq K] in
/-- The nodes that are found at the indices from 0 on are those of the order. -/
theorem map_found_eq {order : List Nat} {found : Nat → Option (Item K V)}
    (hfound : ∀ i, found i = order[i]?.bind h.nodes) : (List.range order.length).map found = order.map h.nodes := by
  apply List.ext_getElem?
  intro i
  rw [List.getElem?_map, List.getElem?_map]
  by_cases hi : i < order.length
  · rw [List.getElem?_range hi, Option.map_some, hfound i, List.getElem?_eq_getElem hi]
    rfl
  · rw [List.getElem?_eq_none (by simpa using hi), List.getElem?_eq_none (Nat.le_of_not_lt hi)]
    rfl

omit [FastHashKey K] [DecidableEq K] in
/-- The nodes in use, from the oldest on, hold the live entries from the oldest on. -/
theorem reverse_bind_nodes {live : List Nat} {entries : List (Item K V)} (hmap : live.map h.nodes = entries.map some)
    (i : Nat) : live.reverse[i]?.bind h.nodes = entries.reverse[i]? := by
  have hreverse : live.reverse.map h.nodes = entries.reverse.map some := by
    rw [List.map_reverse, hmap, List.map_reverse]
  have hat := congrArg (fun items : List (Option (Item K V)) => items[i]?.join) hreverse
  simp only [List.getElem?_map] at hat
  cases hnode : live.reverse[i]? <;> cases hitem : entries.reverse[i]? <;> simp_all

/-- After any calls on a table with an index list, of at most as many nodes as an `int` can number. `l` are the
entries that were inserted and are still there. -/
theorem lookupByIndex_enumerates {fsize tsize : Nat} (hfsize : 1 ≤ fsize) (hint : fsize ≤ INT_ELEMENTS)
    (htsize : 1 ≤ tsize) (nodes : Nat → Option (Item K V)) (itemnodes : Nat → ItemNode) (lookuptable : Nat → Option Nat)
    (indexlist : Nat → Int32) (calls : List (FastHashCall K V)) :
    let h := calls.foldl FastHashCall.run (FastHashBase.init fsize tsize nodes itemnodes lookuptable (some indexlist))
    let l := calls.foldl (FastHashCall.track fsize) ⟨[], true⟩
    h.size = l.entries.length ∧
    (∃ (free : List Nat) (bucket : Nat → List Nat) (order : List Nat), Partitioned h free bucket ∧
      order.Perm (chained h bucket) ∧ order.Nodup ∧ order.length = h.size ∧
      ∀ i, (h.lookupByIndex i).1 = order[i]?.bind (entryOf h)) ∧
    ((List.range h.size).map fun i => (h.lookupByIndex i).1).Perm (l.entries.map some) ∧
    (∀ i, h.size ≤ i → (h.lookupByIndex i).1 = none) ∧
    (∀ i j, ((h.lookupByIndex j).2.lookupByIndex i).1 = (h.lookupByIndex i).1) ∧
    (l.undisturbed = true → ∀ i, (h.lookupByIndex i).1 = l.entries.reverse[i]?) := by
  intro h l
  have hfresh : Tracks (FastHashBase.init fsize tsize nodes itemnodes lookuptable (some indexlist)) ⟨[], true⟩ :=
    ⟨[], _, FastHashBase.reset_rep _, rfl, FastHashBase.reset_indexes _ hint rfl hfsize⟩
  obtain ⟨htracks, hfs, hts⟩ := hfresh.foldl calls htsize
  have hall : Tracks h l := htracks
  have hwidth : 0 < h.tsize := by
    rw [hts]
    exact htsize
  have hsize := hall.stores.size_eq
  obtain ⟨live, free, r, hmap, ix⟩ := hall
  obtain ⟨order, hperm, hinOrder, hfinds⟩ := ix.lookupByIndex r hwidth
  obtain ⟨bucket, hpartitioned, hchained⟩ := rep_partitioned r hwidth
  have hlength : order.length = h.size := by rw [hperm.length_eq, r.size_eq]
  have hentry : ∀ i : Nat, order[i]?.bind h.nodes = order[i]?.bind (entryOf h) := by
    intro i
    cases hi : order[i]? with
    | none => rfl
    | some x => exact (entryOf_live r x (hperm.mem_iff.mp (List.mem_of_getElem? hi))).symm
  refine ⟨hsize, ⟨free, bucket, order, hpartitioned, hperm.trans hchained.symm, ?_, hlength, ?_⟩, ?_, ?_, ?_, ?_⟩
  · exact hperm.nodup_iff.mpr (List.nodup_append.mp r.nodup).1
  · intro i
    rw [(hfinds i).found, hentry]
  · rw [← hlength, map_found_eq fun i => (hfinds i).found, ← hmap]
    exact hperm.map _
  · intro i hi
    rw [(hfinds i).found, List.getElem?_eq_none (by omega)]
    rfl
  · intro i j
    rw [(hfinds j).again, (hfinds i).found]
  · intro hundisturbed i
    rw [(hfinds i).found, hinOrder hundisturbed]
    exact reverse_bind_nodes hmap i

/-- Two entries inserted into a table that had been emptied before: they are found in this order. -/
theorem lookupByIndex_enumerates_refilled :
    1 ≤ 2 ∧ 2 ≤ INT_ELEMENTS ∧ 1 ≤ 1 ∧ ∀ i,
      (([.insert ⟨6, 9⟩, .remove 6, .insert ⟨7, 10⟩, .insert ⟨8, 11⟩].foldl FastHashCall.run
        (FastHashBase.init 2 1 (fun _ => none) (fun _ => ⟨0, none⟩) (fun _ => none) (some fun _ => 0) :
          FastHashBase UInt16 Nat)).lookupByIndex i).1 = [⟨7, 10⟩, ⟨8, 11⟩][i]? := by
  have htwo : 2 ≤ INT_ELEMENTS := by decide
  have henumerates := lookupByIndex_enumerates (K := UInt16) (V := Nat) (show 1 ≤ 2 by decide) htwo
    (show 1 ≤ 1 by decide) (fun _ => none) (fun _ => ⟨0, none⟩) (fun _ => none) (fun _ => 0)
    [.insert ⟨6, 9⟩, .remove 6, .insert ⟨7, 10⟩, .insert ⟨8, 11⟩]
  exact ⟨by decide, htwo, by decide, henumerates.2.2.2.2.2 rfl⟩

/-! ## More nodes than an int can number -/

omit [DecidableEq K] in
theorem insert_indexStart (h : FastHashBase K V) (key : K) (value : V) :
    (h.insert key value).2.indexStart = h.indexStart := by
  cases hfree : h.freelist with
  | none => simp [FastHashBase.insert, hfree]
  | some x => exact (FastHashBase.insert_eq hfree key value).2.2.2.2.2.2.2.2.1

theorem foldl_insert_indexStart (items : List (Item K V)) (h : FastHashBase K V) :
    ((items.map FastHashCall.insert).foldl FastHashCall.run h).indexStart = h.indexStart := by
  induction items generalizing h with
  | nil => rfl
  | cons item items ih => exact (ih _).trans (insert_indexStart h item.key item.value)

theorem foldl_insert_fsize (items : List (Item K V)) (h : FastHashBase K V) :
    ((items.map FastHashCall.insert).foldl FastHashCall.run h).fsize = h.fsize := by
  induction items generalizing h with
  | nil => rfl
  | cons item items ih => exact (ih _).trans (FastHashBase.insert_fsize h item.key item.value)

/-- Calls that only insert are the insertions of a multimap. -/
theorem foldl_insert_run (items : List (Item K V)) (h : FastHashBase K V) :
    (items.map FastHashCall.insert).foldl FastHashCall.run h =
      (items.map Multimap.Op.insert).foldl FastHashBase.perform h := by
  rw [List.foldl_map, List.foldl_map]
  rfl

omit [FastHashKey K] [DecidableEq K] in
/-- `indexadjusted` cannot be the place of the last entry. -/
theorem itemindex_wrapped {h : FastHashBase K V} (hfsize : h.fsize = INT_ELEMENTS + 1) (hstart : h.indexStart = 0) :
    (h.indexlist.bind fun list => (element (Int32.ofNat ((h.indexStart + INT_ELEMENTS) % h.fsize))).map list) = none := by
  rw [hstart, hfsize, Nat.zero_add, Nat.mod_eq_of_lt (Nat.lt_succ_self _), element_wrapped]
  cases h.indexlist <;> rfl

omit [FastHashKey K] [DecidableEq K] in
theorem lookupByIndex_wrapped {h : FastHashBase K V} (hfsize : h.fsize = INT_ELEMENTS + 1) (hstart : h.indexStart = 0) :
    (h.lookupByIndex INT_ELEMENTS).1 = none := by
  have hreIndex : h.reIndex.fsize = h.fsize ∧ h.reIndex.indexStart = 0 := by
    rw [FastHashBase.reIndex]
    split
    · exact ⟨rfl, hstart⟩
    · split
      · exact ⟨rfl, hstart⟩
      · exact ⟨rfl, rfl⟩
  rw [FastHashBase.lookupByIndex]
  split
  · rfl
  cases hvalid : h.fIndexValid with
  | true => simp only [if_true, hvalid, itemindex_wrapped hfsize hstart, Option.bind_none]
  | false =>
    simp only [Bool.false_eq_true, if_false]
    split
    · simp only [itemindex_wrapped (hreIndex.1.trans hfsize) hreIndex.2, Option.bind_none]
    · rfl

omit [FastHashKey K] [DecidableEq K] in
/-- What is looked up and not found is no entry. -/
theorem not_perm_of_none {found : Nat → Option (Item K V)} {size index : Nat} {entries : List (Item K V)}
    (hindex : index < size) (hfound : found index = none) : ¬ ((List.range size).map found).Perm (entries.map some) := by
  intro hperm
  have hmem : none ∈ (List.range size).map found := List.mem_map.mpr ⟨index, List.mem_range.mpr hindex, hfound⟩
  obtain ⟨item, -, hitem⟩ := List.mem_map.mp (hperm.mem_iff.mp hmem)
  cases hitem

theorem manyAndOneMore_unindexed {n : Nat} (hn : n = INT_ELEMENTS) :
    let calls := (manyAndOneMore n).map FastHashCall.insert
    let h := calls.foldl FastHashCall.run
      (FastHashBase.init (n + 1) 1 (fun _ => none) (fun _ => ⟨0, none⟩) (fun _ => none) (some fun _ => 0))
    let l := calls.foldl (FastHashCall.track (n + 1)) ⟨[], true⟩
    n < h.size ∧ (h.lookupByIndex n).1 = none ∧
      ¬ ((List.range h.size).map fun i => (h.lookupByIndex i).1).Perm (l.entries.map some) := by
  intro calls h l
  have hfresh : (FastHashBase.init (n + 1) 1 (fun _ => none) (fun _ => ⟨0, none⟩) (fun _ => none) (some fun _ => 0) :
      FastHashBase UInt16 Nat).Stores [] := FastHashBase.reset_stores _
  obtain ⟨hsize, -⟩ := manyAndOneMore_lost hn hfresh rfl Nat.one_pos
  rw [← foldl_insert_run] at hsize
  have hlt : n < h.size := Nat.lt_of_lt_of_eq (Nat.lt_succ_self n) hsize.symm
  have hnone : (h.lookupByIndex n).1 = none := by
    rw [hn]
    exact lookupByIndex_wrapped (hn ▸ foldl_insert_fsize _ _) (foldl_insert_indexStart _ _)
  exact ⟨hlt, hnone, not_perm_of_none hlt hnone⟩

/-- In a table with one node more than an `int` can number, the last of as many entries is found at no index. -/
theorem lookupByIndex_beyond_int :
    let calls := (manyAndOneMore INT_ELEMENTS).map FastHashCall.insert
    let h := calls.foldl FastHashCall.run
      (FastHashBase.init (INT_ELEMENTS + 1) 1 (fun _ => none) (fun _ => ⟨0, none⟩) (fun _ => none) (some fun _ => 0))
    let l := calls.foldl (FastHashCall.track (INT_ELEMENTS + 1)) ⟨[], true⟩
    INT_ELEMENTS < h.size ∧ (h.lookupByIndex INT_ELEMENTS).1 = none ∧
      ¬ ((List.range h.size).map fun i => (h.lookupByIndex i).1).Perm (l.entries.map some) :=
  manyAndOneMore_unindexed rfl

end NatTester.Guarantees
