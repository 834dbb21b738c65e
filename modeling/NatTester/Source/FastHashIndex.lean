import NatTester.Source.FastHashRemove

/-!
# The index list

`ReIndex` writes the buckets one after the other. `Remove` moves the start of a
valid index past its first node, leaves its last node behind, and invalidates it
for a node in the middle; the last node of the table makes it valid again. The
slots behind the enumerated ones hold numbers of nodes long removed.
-/
namespace NatTester.Source
open NatTester.Lib

namespace FastHashBase

variable {K V : Type} [FastHashKey K] {h : FastHashBase K V} {live free order : List Nat}

/-! ## ReIndex -/

/-- One turn of the inner loop: `_indexlist[index] = pNode->index; index++`. -/
def writeIndex (h : FastHashBase K V) (acc : Int32 × (Nat → Int32)) (x : Nat) : Int32 × (Nat → Int32) :=
  (acc.1 + 1, storeAt acc.2 acc.1 (h.itemnodes x).index)

omit [FastHashKey K] in
theorem reIndexChain_eq {nodes : List Nat} :
    ∀ {fuel : Nat} {head : Option Nat}, Chain h.pNext head nodes → nodes.length < fuel →
      ∀ acc, h.reIndexChain fuel head acc = nodes.foldl h.writeIndex acc := by
  induction nodes with
  | nil =>
    rintro fuel head rfl hfuel acc
    obtain ⟨n, rfl⟩ : ∃ n, fuel = n + 1 := ⟨fuel - 1, by simp at hfuel; omega⟩
    rfl
  | cons x nodes ih =>
    rintro fuel head ⟨rfl, hchain⟩ hfuel acc
    rw [List.length_cons] at hfuel
    obtain ⟨n, rfl⟩ : ∃ n, fuel = n + 1 := ⟨fuel - 1, by omega⟩
    exact ih hchain (by omega) _

omit [FastHashKey K] in
/-- Writing node numbers from a position on leaves what stands before it, while an `int` can count them. -/
theorem foldl_writeIndex (h : FastHashBase K V) (nodes : List Nat) (index : Nat) (list : Nat → Int32)
    (hint : index + nodes.length ≤ INT_ELEMENTS) :
    (∀ k, k < index → (nodes.foldl h.writeIndex (Int32.ofNat index, list)).2 k = list k) ∧
    ∀ k x, nodes[k]? = some x →
      (nodes.foldl h.writeIndex (Int32.ofNat index, list)).2 (index + k) = (h.itemnodes x).index := by
  induction nodes generalizing index list with
  | nil => simp
  | cons y nodes ih =>
    rw [List.length_cons] at hint
    have hturn : h.writeIndex (Int32.ofNat index, list) y =
        (Int32.ofNat (index + 1), Function.update list index (h.itemnodes y).index) := by
      rw [writeIndex, storeAt_ofNat (by omega), Int32.ofNat_add]
      rfl
    rw [List.foldl_cons, hturn]
    obtain ⟨hbefore, hat⟩ := ih (index + 1) (Function.update list index (h.itemnodes y).index) (by omega)
    constructor
    · intro k hk
      rw [hbefore k (Nat.lt_succ_of_lt hk)]
      exact Function.update_of_ne (Nat.ne_of_lt hk) _ _
    · intro k x hx
      cases k with
      | zero =>
        rw [List.getElem?_cons_zero, Option.some.injEq] at hx
        subst hx
        exact (hbefore index (Nat.lt_succ_self _)).trans (Function.update_self ..)
      | succ k =>
        have hlater := hat k x hx
        rwa [Nat.add_right_comm, Nat.add_assoc] at hlater

omit [FastHashKey K] in
/-- Sorting a list into classes keeps its elements. -/
private theorem classes_perm {xs : List Nat} {n : Nat} {cls : Nat → Option Nat} (hnodup : xs.Nodup)
    (hcls : ∀ x ∈ xs, ∃ t, t < n ∧ cls x = some t) :
    ((List.range n).flatMap fun t => xs.filter fun x => cls x = some t).Perm xs := by
  have hdistinct : ((List.range n).flatMap fun t => xs.filter fun x => cls x = some t).Nodup := by
    rw [List.nodup_flatMap]
    constructor
    · intro t _
      exact hnodup.filter _
    · apply List.nodup_range.imp
      intro s t hne x hs ht
      have hs' := (List.mem_filter.mp hs).2
      have ht' := (List.mem_filter.mp ht).2
      simp only [decide_eq_true_eq] at hs' ht'
      exact hne (Option.some.inj (hs'.symm.trans ht'))
  rw [List.perm_ext_iff_of_nodup hdistinct hnodup]
  intro x
  simp only [List.mem_flatMap, List.mem_range, List.mem_filter, decide_eq_true_eq]
  constructor
  · intro hmem
    obtain ⟨t, -, hx, -⟩ := hmem
    exact hx
  · intro hx
    obtain ⟨t, ht, hcls⟩ := hcls x hx
    exact ⟨t, ht, hx, hcls⟩

/-- The nodes in use, bucket after bucket. -/
def byBucket (h : FastHashBase K V) (live : List Nat) : List Nat :=
  (List.range h.tsize).flatMap fun t => live.filter fun x => h.bucketOf x = some t

theorem Rep.byBucket_perm (r : h.Rep live free) (htsize : 0 < h.tsize) : (h.byBucket live).Perm live := by
  apply classes_perm (List.nodup_append.mp r.nodup).1
  intro x hx
  obtain ⟨item, hitem⟩ := Option.isSome_iff_exists.mp (r.filled x hx)
  exact ⟨h.hashIndex item.key, Nat.mod_lt _ htsize, by simp [bucketOf, hitem]⟩

/-- The nodes and their links know nothing of the index. -/
theorem Rep.withIndex (r : h.Rep live free) (indexlist : Option (Nat → Int32)) (fIndexValid : Bool) (indexStart : Nat) :
    { h with indexlist, fIndexValid, indexStart }.Rep live free :=
  ⟨r.nodup, r.mem_iff, r.numbered, r.index_eq, r.free_chain, r.bucket_chain, r.filled, r.size_eq⟩

/-- What `ReIndex` leaves is a valid index, and the same table. -/
theorem Rep.reIndex (r : h.Rep live free) (hint : h.fsize ≤ INT_ELEMENTS) (htsize : 0 < h.tsize)
    (hlist : h.indexlist.isSome) (hsize : 0 < h.size) :
    h.reIndex.Indexed (h.byBucket live) ∧
      ∃ list, h.reIndex = { h with indexlist := some list, fIndexValid := true, indexStart := 0 } := by
  obtain ⟨list, hl⟩ := Option.isSome_iff_exists.mp hlist
  have hlength := r.length_add
  have hfold : (List.range h.tsize).foldl (fun acc t => h.reIndexChain (h.fsize + 1) (h.lookuptable t) acc) (0, list) =
      (h.byBucket live).foldl h.writeIndex (0, list) := by
    rw [byBucket, List.foldl_flatMap]
    apply List.foldl_ext
    intro acc t ht
    have hfilter := List.length_filter_le (fun x => h.bucketOf x = some t) live
    exact reIndexChain_eq (r.bucket_chain t (List.mem_range.mp ht)) (by omega) acc
  have hreIndex : h.reIndex = { h with
      indexlist := some ((h.byBucket live).foldl h.writeIndex (0, list)).2
      fIndexValid := true
      indexStart := 0 } := by
    simp [FastHashBase.reIndex, hl, Nat.ne_of_gt hsize, hfold]
  refine ⟨?_, _, hreIndex⟩
  rw [hreIndex]
  refine ⟨rfl, _, rfl, ?_⟩
  intro i x hx
  have hmem : x ∈ live := (r.byBucket_perm htsize).mem_iff.mp (List.mem_of_getElem? hx)
  have hbound : i < (h.byBucket live).length := (List.getElem?_eq_some_iff.mp hx).1
  rw [(r.byBucket_perm htsize).length_eq] at hbound
  have hcount := (r.byBucket_perm htsize).length_eq
  have hwritten := (h.foldl_writeIndex (h.byBucket live) 0 list (by omega)).2 i x hx
  rw [r.index_eq x (r.lt_of_live hmem)] at hwritten
  change ((h.byBucket live).foldl h.writeIndex (0, list)).2 ((0 + i) % h.fsize) = Int32.ofNat x
  rw [Nat.mod_eq_of_lt (by omega)]
  exact hwritten

/-- A lookup in an invalid index is one in the rebuilt index. -/
theorem Rep.lookupByIndex_invalid (r : h.Rep live free) (hint : h.fsize ≤ INT_ELEMENTS) (htsize : 0 < h.tsize)
    (hsome : h.indexlist.isSome) (hflag : h.fIndexValid = false) {index : Nat} (hlt : index < h.size) :
    h.lookupByIndex index = h.reIndex.lookupByIndex index := by
  obtain ⟨hindexed, list, hlist⟩ := r.reIndex hint htsize hsome (by omega)
  have hnot : ¬ index ≥ h.size := Nat.not_le.mpr hlt
  have hnot' : ¬ index ≥ h.reIndex.size := by rwa [hlist]
  have hsome' : h.reIndex.indexlist.isSome := by
    rw [hlist]
    rfl
  rw [← Option.not_isNone, Bool.not_eq_true'] at hsome hsome'
  simp [FastHashBase.lookupByIndex, hnot, hnot', hsome, hsome', hflag, hindexed.valid]

/-! ## The index through the calls -/

/-- A table with an index list. Where the index is valid it enumerates the nodes in use; while `inOrder` it is
valid, and the oldest node comes first. -/
structure Indexes (h : FastHashBase K V) (live : List Nat) (inOrder : Bool) : Prop where
  int : h.fsize ≤ INT_ELEMENTS
  list : h.indexlist.isSome
  start_lt : h.indexStart < h.fsize
  enumerates : h.fIndexValid = true → ∃ order, order.Perm live ∧ h.Indexed order
  in_order : inOrder = true → h.Indexed live.reverse

variable {inOrder : Bool}

omit [FastHashKey K] in
theorem reset_indexes (h : FastHashBase K V) (hint : h.fsize ≤ INT_ELEMENTS) (hlist : h.indexlist.isSome)
    (hfsize : 0 < h.fsize) : h.reset.Indexes [] true where
  int := hint
  list := hlist
  start_lt := hfsize
  enumerates := fun _ => ⟨[], .refl [], reset_indexed h hlist⟩
  in_order := fun _ => reset_indexed h hlist

theorem Indexes.insert {x : Nat} (ix : h.Indexes live inOrder) (r : h.Rep live (x :: free)) (key : K) (value : V) :
    (h.insert key value).2.Indexes (x :: live) inOrder := by
  obtain ⟨-, hfs, -, -, -, -, -, hval, hstart, -⟩ := insert_eq r.free_chain.1 key value
  refine ⟨?_, ?_, ?_, ?_, ?_⟩
  · rw [hfs]
    exact ix.int
  · rw [insert_indexlist_isSome]
    exact ix.list
  · rw [hstart, hfs]
    exact ix.start_lt
  · intro hvalid
    rw [hval] at hvalid
    obtain ⟨order, hperm, hindexed⟩ := ix.enumerates hvalid
    refine ⟨order ++ [x], ?_, hindexed.insert r hperm.length_eq key value⟩
    exact (List.perm_append_singleton x order).trans (hperm.cons x)
  · intro hinOrder
    rw [List.reverse_cons]
    exact (ix.in_order hinOrder).insert r live.length_reverse key value

/-- Which node `LookupByIndex` finds where; a lookup may rebuild the index, later ones then find the same. -/
structure Finds (h : FastHashBase K V) (live order : List Nat) (inOrder : Bool) (index : Nat) : Prop where
  found : (h.lookupByIndex index).1 = order[index]?.bind h.nodes
  again : ∀ later, ((h.lookupByIndex index).2.lookupByIndex later).1 = order[later]?.bind h.nodes
  indexes : (h.lookupByIndex index).2.Indexes live inOrder
  same : ∃ indexlist fIndexValid indexStart, (h.lookupByIndex index).2 = { h with indexlist, fIndexValid, indexStart }

theorem Indexed.finds (hindexed : h.Indexed order) (ix : h.Indexes live inOrder) (r : h.Rep live free)
    (hperm : order.Perm live) (index : Nat) : h.Finds live order inOrder index := by
  have hlookup := hindexed.lookupByIndex_eq r ix.int hperm.length_eq fun x hx => r.lt_int (hperm.mem_iff.mp hx)
  refine ⟨?_, ?_, ?_, h.indexlist, h.fIndexValid, h.indexStart, ?_⟩
  · rw [hlookup]
  · intro later
    rw [hlookup, hlookup]
  · rw [hlookup]
    exact ix
  · rw [hlookup]

/-- An invalid index is rebuilt by the first lookup of an entry. -/
theorem Indexes.finds_invalid (ix : h.Indexes live false) (r : h.Rep live free) (htsize : 0 < h.tsize)
    (hflag : h.fIndexValid = false) (index : Nat) : h.Finds live (h.byBucket live) false index := by
  have hperm := r.byBucket_perm htsize
  have hbehind : ∀ later, later ≥ h.size → h.lookupByIndex later = (none, h) ∧ (h.byBucket live)[later]? = none := by
    intro later hge
    constructor
    · simp [FastHashBase.lookupByIndex, hge]
    · rw [List.getElem?_eq_none_iff, hperm.length_eq, ← r.size_eq]
      exact hge
  -- what a lookup of an entry finds, and what it leaves
  have hrebuilt : ∀ later, later < h.size →
      (h.lookupByIndex later).1 = (h.byBucket live)[later]?.bind h.nodes ∧
        ∃ list, (h.lookupByIndex later).2 = { h with indexlist := some list, fIndexValid := true, indexStart := 0 } ∧
          (h.lookupByIndex later).2.Indexed (h.byBucket live) := by
    intro later hlt
    obtain ⟨hindexed, list, hlist⟩ := r.reIndex ix.int htsize ix.list (by omega)
    have hrep : h.reIndex.Rep live free := by
      rw [hlist]
      exact r.withIndex _ _ _
    have hsmall : ∀ x ∈ h.byBucket live, x < INT_ELEMENTS := fun x hx => r.lt_int (hperm.mem_iff.mp hx)
    have hint : h.reIndex.fsize ≤ INT_ELEMENTS := by
      rw [hlist]
      exact ix.int
    rw [r.lookupByIndex_invalid ix.int htsize ix.list hflag hlt,
      hindexed.lookupByIndex_eq hrep hint hperm.length_eq hsmall]
    exact ⟨by rw [hlist], list, hlist, hindexed⟩
  have hfound : ∀ later, (h.lookupByIndex later).1 = (h.byBucket live)[later]?.bind h.nodes := by
    intro later
    by_cases hge : later ≥ h.size
    · rw [(hbehind later hge).1, (hbehind later hge).2]
      rfl
    · exact (hrebuilt later (by omega)).1
  by_cases hge : index ≥ h.size
  · refine ⟨hfound index, ?_, ?_, h.indexlist, h.fIndexValid, h.indexStart, ?_⟩ <;> rw [(hbehind index hge).1]
    · exact hfound
    · exact ix
  · obtain ⟨-, list, hlist, hindexed⟩ := hrebuilt index (by omega)
    have hnext : (h.lookupByIndex index).2.Indexes live false := by
      refine ⟨?_, ?_, ?_, fun _ => ⟨h.byBucket live, hperm, hindexed⟩, fun h => absurd h (by decide)⟩
      · rw [hlist]
        exact ix.int
      · rw [hlist]
        rfl
      · rw [hlist]
        exact Nat.lt_of_le_of_lt (Nat.zero_le _) ix.start_lt
    have hrep : (h.lookupByIndex index).2.Rep live free := by
      rw [hlist]
      exact r.withIndex _ _ _
    refine ⟨hfound index, ?_, hnext, _, _, _, hlist⟩
    intro later
    rw [(hindexed.finds hnext hrep hperm later).found, hlist]

/-- `LookupByIndex` finds the nodes in use in some order, the oldest first while the table is undisturbed. -/
theorem Indexes.lookupByIndex (ix : h.Indexes live inOrder) (r : h.Rep live free) (htsize : 0 < h.tsize) :
    ∃ order, order.Perm live ∧ (inOrder = true → order = live.reverse) ∧ ∀ index, h.Finds live order inOrder index := by
  cases hinOrder : inOrder with
  | true =>
    rw [hinOrder] at ix
    exact ⟨live.reverse, live.reverse_perm, fun _ => rfl, (ix.in_order rfl).finds ix r live.reverse_perm⟩
  | false =>
    rw [hinOrder] at ix
    cases hflag : h.fIndexValid with
    | true =>
      obtain ⟨order, hperm, hindexed⟩ := ix.enumerates hflag
      exact ⟨order, hperm, fun h => absurd h (by decide), hindexed.finds ix r hperm⟩
    | false =>
      exact ⟨h.byBucket live, r.byBucket_perm htsize, fun h => absurd h (by decide), ix.finds_invalid r htsize hflag⟩

omit [FastHashKey K] in
/-- The last node of the table leaves a valid index behind. -/
theorem updateIndexWithRemove_single (hlist : h.indexlist.isSome) (hone : h.size = 1) (x : Nat) :
    (h.updateIndexWithRemove x).fIndexValid = true ∧ (h.updateIndexWithRemove x).indexStart = 0 := by
  obtain ⟨list, hl⟩ := Option.isSome_iff_exists.mp hlist
  simp [FastHashBase.updateIndexWithRemove, hl, hone]

omit [FastHashKey K] in
theorem updateIndexWithRemove_invalid (hsize : 1 < h.size) (hflag : h.fIndexValid = false) (x : Nat) :
    h.updateIndexWithRemove x = h := by
  unfold FastHashBase.updateIndexWithRemove
  cases h.indexlist with
  | none => rfl
  | some list => exact if_pos (Or.inr ⟨hsize, hflag⟩)

omit [FastHashKey K] in
/-- `UpdateIndexWithRemove` on a valid index of several nodes: the removed one is the first, the last or neither. -/
theorem Indexed.updateIndexWithRemove (ix : h.Indexed order) (hsize : h.size = order.length) (hmany : 1 < h.size)
    {x : Nat} (hindex : (h.itemnodes x).index = Int32.ofNat x) (hx : x < INT_ELEMENTS)
    (hsmall : ∀ y ∈ order, y < INT_ELEMENTS) (hstart : h.indexStart < h.fsize) :
    (∃ rest, order = x :: rest ∧ (h.updateIndexWithRemove x).fIndexValid = true ∧
      (h.updateIndexWithRemove x).indexStart = (h.indexStart + 1) % h.fsize) ∨
    (∃ front, order = front ++ [x] ∧ (h.updateIndexWithRemove x).fIndexValid = true ∧
      (h.updateIndexWithRemove x).indexStart = h.indexStart) ∨
    (h.updateIndexWithRemove x).fIndexValid = false ∧ (h.updateIndexWithRemove x).indexStart = h.indexStart := by
  obtain ⟨list, hlist, hslots⟩ := ix.slots
  have hvalid := ix.valid
  have hpos : 0 < order.length := by omega
  have hne : order ≠ [] := List.length_pos_iff.mp hpos
  have hzero : h.size ≠ 0 := by omega
  have hone : h.size ≠ 1 := by omega
  by_cases hfirst : Int32.ofNat x = list h.indexStart
  · left
    have hhead := hslots 0 order[0] (List.getElem?_eq_getElem hpos)
    rw [Nat.add_zero, Nat.mod_eq_of_lt hstart, ← hfirst] at hhead
    refine ⟨order.tail, ?_, ?_⟩
    · rw [ofNat_inj hx (hsmall _ (List.getElem_mem hpos)) hhead, List.getElem_zero, List.cons_head_tail]
    · simp [FastHashBase.updateIndexWithRemove, hlist, hone, hzero, hvalid, hindex, ← hfirst]
  right
  by_cases hlast : Int32.ofNat x = list ((h.indexStart + (h.size - 1)) % h.fsize)
  · left
    have hend := hslots (h.size - 1) (order.getLast hne) (by
      rw [hsize, ← List.getLast?_eq_getElem?, List.getLast?_eq_some_getLast])
    refine ⟨order.dropLast, ?_, ?_⟩
    · rw [ofNat_inj hx (hsmall _ (List.getLast_mem hne)) (hlast.trans hend), List.dropLast_append_getLast]
    · rw [← hindex] at hfirst hlast
      simp [FastHashBase.updateIndexWithRemove, hlist, hone, hzero, hvalid, hfirst, ← hlast]
  · right
    rw [← hindex] at hfirst hlast
    simp [FastHashBase.updateIndexWithRemove, hlist, hone, hzero, hvalid, hfirst, hlast]

section Kept
variable {h' : FastHashBase K V} {x : Nat} (hlist : h'.indexlist = h.indexlist) (hfs : h'.fsize = h.fsize)
  (hvalid : h'.fIndexValid = true)
include hlist hfs hvalid

omit [FastHashKey K] in
/-- The same slots, from the second node on. -/
theorem Indexed.behind {behind : List Nat} (ix : h.Indexed (x :: behind))
    (hstart : h'.indexStart = (h.indexStart + 1) % h.fsize) : h'.Indexed behind := by
  obtain ⟨list, hl, hslots⟩ := ix.slots
  refine ⟨hvalid, list, hlist.trans hl, fun i z hz => ?_⟩
  have hslot := hslots (i + 1) z hz
  rwa [hstart, hfs, Nat.mod_add_mod, Nat.add_assoc, Nat.add_comm 1 i]

omit [FastHashKey K] in
/-- The same slots, without the last node. -/
theorem Indexed.front {front : List Nat} (ix : h.Indexed (front ++ [x])) (hstart : h'.indexStart = h.indexStart) :
    h'.Indexed front := by
  obtain ⟨list, hl, hslots⟩ := ix.slots
  refine ⟨hvalid, list, hlist.trans hl, fun i z hz => ?_⟩
  rw [hstart, hfs]
  apply hslots
  rw [List.getElem?_append_left (List.getElem?_eq_some_iff.mp hz).1]
  exact hz

end Kept

section Remove

variable [DecidableEq K]

/-- What `Remove` does to the index is `UpdateIndexWithRemove`, and that leaves the slots alone. -/
theorem remove_index_eq {key : K} {x : Nat} {pPrev : Option Nat} (hfind : h.find key = (some x, pPrev)) :
    (h.remove key).2.indexlist = h.indexlist ∧
    (h.remove key).2.fIndexValid = (h.updateIndexWithRemove x).fIndexValid ∧
    (h.remove key).2.indexStart = (h.updateIndexWithRemove x).indexStart := by
  have hindex := h.unlinkNode_index key x pPrev x
  cases pPrev with
  | none =>
    simp only [remove, hfind, updateIndexWithRemove]
    cases h.indexlist with
    | none => simp
    | some list =>
      simp only
      split_ifs <;> simp
  | some prev =>
    simp only [unlinkNode] at hindex
    simp only [remove, hfind, updateIndexWithRemove]
    cases h.indexlist with
    | none => simp
    | some list =>
      simp only [hindex]
      split_ifs <;> simp

/-- Of several nodes one is removed: a valid index loses its first or its last node, or becomes invalid. -/
theorem Indexes.remove_many {key : K} {newer older : List Nat} {x : Nat} {pPrev : Option Nat}
    (ix : h.Indexes (newer ++ x :: older) inOrder) (r : h.Rep (newer ++ x :: older) free)
    (hfind : h.find key = (some x, pPrev)) (hmany : 1 < h.size) : (h.remove key).2.Indexes (newer ++ older) false := by
  obtain ⟨-, hfs, -⟩ := remove_eq hfind
  obtain ⟨hlist, hflag, hstart⟩ := remove_index_eq hfind
  have hfsize : 0 < h.fsize := Nat.lt_of_le_of_lt (Nat.zero_le _) ix.start_lt
  have hsome : (h.remove key).2.indexlist.isSome := by
    rw [hlist]
    exact ix.list
  have hin : ∀ P : Prop, false = true → P := fun _ h => absurd h (by decide)
  have hint : (h.remove key).2.fsize ≤ INT_ELEMENTS := by
    rw [hfs]
    exact ix.int
  cases hvalid : h.fIndexValid with
  | false =>
    rw [updateIndexWithRemove_invalid hmany hvalid] at hflag hstart
    refine ⟨hint, hsome, ?_, ?_, hin _⟩
    · rw [hstart, hfs]
      exact ix.start_lt
    · rw [hflag, hvalid]
      exact hin _
  | true =>
    obtain ⟨order, hperm, hindexed⟩ := ix.enumerates hvalid
    have hlength : h.size = order.length := by rw [hperm.length_eq, r.size_eq]
    have hindex := r.index_eq x (r.lt_of_live (by simp))
    have hperm' : order.Perm (x :: (newer ++ older)) := hperm.trans List.perm_middle
    have hx : x < INT_ELEMENTS := r.lt_int (by simp)
    have hsmall : ∀ y ∈ order, y < INT_ELEMENTS := fun y hy => r.lt_int (hperm.mem_iff.mp hy)
    rcases hindexed.updateIndexWithRemove hlength hmany hindex hx hsmall ix.start_lt with
      ⟨behind, rfl, hv, hs⟩ | ⟨front, rfl, hv, hs⟩ | ⟨hv, hs⟩
    · refine ⟨hint, hsome, ?_, fun _ => ⟨behind, hperm'.cons_inv, ?_⟩, hin _⟩
      · rw [hstart, hs, hfs]
        exact Nat.mod_lt _ hfsize
      · exact hindexed.behind hlist hfs (hflag.trans hv) (hstart.trans hs)
    · refine ⟨hint, hsome, ?_, fun _ => ⟨front, ?_, ?_⟩, hin _⟩
      · rw [hstart, hs, hfs]
        exact ix.start_lt
      · exact ((List.perm_append_singleton x front).symm.trans hperm').cons_inv
      · exact hindexed.front hlist hfs (hflag.trans hv) (hstart.trans hs)
    · refine ⟨hint, hsome, ?_, ?_, hin _⟩
      · rw [hstart, hs, hfs]
        exact ix.start_lt
      · rw [hflag, hv]
        exact hin _

theorem Indexes.remove {key : K} {newer older : List Nat} {x : Nat} {item : Item K V}
    (ix : h.Indexes (newer ++ x :: older) inOrder) (r : h.Rep (newer ++ x :: older) free) (htsize : 0 < h.tsize)
    (hnode : h.nodes x = some item) (hkey : item.key = key) (hnewer : h.newest newer key = none) :
    (h.remove key).2.Indexes (newer ++ older) (newer ++ older).isEmpty := by
  have hfind := r.find_eq htsize hnode hkey hnewer
  have hsize := r.size_eq
  rw [List.length_append, List.length_cons] at hsize
  cases hrest : newer ++ older with
  | nil =>
    obtain ⟨rfl, rfl⟩ := List.append_eq_nil_iff.mp hrest
    obtain ⟨-, hfs, -⟩ := remove_eq hfind
    obtain ⟨hlist, hflag, hstart⟩ := remove_index_eq hfind
    obtain ⟨hvalid, hzero⟩ := updateIndexWithRemove_single ix.list hsize x
    obtain ⟨list, hl⟩ := Option.isSome_iff_exists.mp ix.list
    have hempty : (h.remove key).2.Indexed [] := ⟨hflag.trans hvalid, list, hlist.trans hl, by simp⟩
    refine ⟨?_, ?_, ?_, fun _ => ⟨[], .refl [], hempty⟩, fun _ => hempty⟩
    · rw [hfs]
      exact ix.int
    · rw [hlist]
      exact ix.list
    · rw [hstart, hzero, hfs]
      exact Nat.lt_of_le_of_lt (Nat.zero_le _) ix.start_lt
  | cons y rest =>
    have hmany : 1 < h.size := by
      have hlen := congrArg List.length hrest
      simp only [List.length_append, List.length_cons] at hlen
      omega
    rw [← hrest, show (newer ++ older).isEmpty = false by rw [hrest]; rfl]
    exact ix.remove_many r hfind hmany

end Remove

end FastHashBase

end NatTester.Source
