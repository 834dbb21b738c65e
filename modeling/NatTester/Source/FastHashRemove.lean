import NatTester.Source.FastHashInvariant
import Mathlib.Data.List.Nodup

/-!
# Remove

`FastHashBase::Remove` takes the newest node of the key out of its bucket, where
it may be the head, have a predecessor, or be hidden by nothing at all, and puts
it in front of the free list.
-/
namespace NatTester.Source
open NatTester.Lib

namespace FastHashBase

variable {K V : Type} [FastHashKey K] [DecidableEq K] {h : FastHashBase K V} {live free : List Nat}

/-- The newest node in use that has the key. -/
def newest (h : FastHashBase K V) (live : List Nat) (key : K) : Option Nat :=
  live.find? fun x => (h.nodes x).any fun item => item.key = key

omit [FastHashKey K] in
/-- Where the probe loop stops on a chain that has the key: at its first such
node, with the node before it, or with `pPrev` at the head. -/
theorem probe_eq {key : K} {x : Nat} {before after : List Nat} (hkey : h.hasKey key x = true)
    (hbefore : ∀ y ∈ before, h.hasKey key y = false) :
    ∀ {fuel : Nat} {pPrev head : Option Nat}, Chain h.pNext head (before ++ x :: after) → before.length < fuel →
      h.probe key fuel pPrev head = (some x, before.getLast?.or pPrev) := by
  induction before with
  | nil =>
    intro fuel pPrev head hchain hfuel
    obtain ⟨n, rfl⟩ : ∃ n, fuel = n + 1 := ⟨fuel - 1, by simp at hfuel; omega⟩
    obtain ⟨rfl, -⟩ := hchain
    simp [probe, hkey]
  | cons y before ih =>
    intro fuel pPrev head hchain hfuel
    rw [List.length_cons] at hfuel
    obtain ⟨n, rfl⟩ : ∃ n, fuel = n + 1 := ⟨fuel - 1, by omega⟩
    obtain ⟨rfl, htail⟩ := hchain
    have hy : h.hasKey key y = false := hbefore y (by simp)
    have hrest : h.probe key n (some y) (h.pNext y) = (some x, before.getLast?.or (some y)) :=
      ih (fun z hz => hbefore z (by simp [hz])) htail (by omega)
    simp only [probe, hy, Bool.false_eq_true, if_false, hrest, List.getLast?_cons]
    cases before.getLast? <;> rfl

/-- The links of bucket and table once `Remove` has taken `x` out, `pPrev` being the node before it. -/
def unlinkNode (h : FastHashBase K V) (key : K) (x : Nat) (pPrev : Option Nat) : FastHashBase K V :=
  match pPrev with
  | none => { h with lookuptable := Function.update h.lookuptable (h.hashIndex key) (h.pNext x) }
  | some prev => { h with itemnodes := Function.update h.itemnodes prev { h.itemnodes prev with pNext := h.pNext x } }

/-- Everything `Remove` does to a node that `Find` found. -/
theorem remove_eq {key : K} {x : Nat} {pPrev : Option Nat} (hfind : h.find key = (some x, pPrev)) :
    (h.remove key).1 = 1 ∧
    (h.remove key).2.fsize = h.fsize ∧
    (h.remove key).2.tsize = h.tsize ∧
    (h.remove key).2.freelist = some x ∧
    (h.remove key).2.nodes = h.nodes ∧
    (h.remove key).2.lookuptable = (h.unlinkNode key x pPrev).lookuptable ∧
    (h.remove key).2.itemnodes = Function.update (h.unlinkNode key x pPrev).itemnodes x
      { (h.unlinkNode key x pPrev).itemnodes x with pNext := h.freelist } ∧
    (h.remove key).2.size = h.size - 1 := by
  simp only [remove, hfind, updateIndexWithRemove]
  cases pPrev with
  | none =>
    simp only [unlinkNode]
    cases h.indexlist with
    | none => simp
    | some list =>
      simp only
      split_ifs <;> simp
  | some prev =>
    simp only [unlinkNode]
    cases h.indexlist with
    | none => simp
    | some list =>
      simp only
      split_ifs <;> simp

omit [DecidableEq K] in
theorem unlinkNode_index (h : FastHashBase K V) (key : K) (x : Nat) (pPrev : Option Nat) (y : Nat) :
    ((h.unlinkNode key x pPrev).itemnodes y).index = (h.itemnodes y).index := by
  cases pPrev with
  | none => rfl
  | some prev =>
    by_cases hy : y = prev
    · subst hy
      simp [unlinkNode]
    · simp [unlinkNode, hy]

theorem remove_index {key : K} {x : Nat} {pPrev : Option Nat} (hfind : h.find key = (some x, pPrev)) (y : Nat) :
    ((h.remove key).2.itemnodes y).index = (h.itemnodes y).index := by
  obtain ⟨-, -, -, -, -, -, hitem, -⟩ := remove_eq hfind
  rw [hitem]
  by_cases hy : y = x
  · subst hy
    simp [unlinkNode_index]
  · simp [hy, unlinkNode_index]

omit [DecidableEq K] in
theorem unlinkNode_pNext (h : FastHashBase K V) (key : K) (x : Nat) (pPrev : Option Nat) :
    (h.unlinkNode key x pPrev).pNext = pPrev.elim h.pNext fun prev => Function.update h.pNext prev (h.pNext x) := by
  cases pPrev with
  | none => rfl
  | some prev =>
    funext y
    by_cases hy : y = prev
    · subst hy
      simp [unlinkNode, pNext]
    · simp [unlinkNode, pNext, hy]

theorem remove_pNext {key : K} {x : Nat} {pPrev : Option Nat} (hfind : h.find key = (some x, pPrev)) :
    (h.remove key).2.pNext = Function.update (h.unlinkNode key x pPrev).pNext x h.freelist := by
  obtain ⟨-, -, -, -, -, -, hitem, -⟩ := remove_eq hfind
  funext y
  rw [pNext, hitem]
  by_cases hy : y = x
  · subst hy
    simp
  · simp [hy, pNext]

omit [FastHashKey K] in
theorem newest_eq_none {key : K} :
    h.newest live key = none ↔ ∀ x ∈ live, ∀ item, h.nodes x = some item → item.key ≠ key := by
  rw [newest, List.find?_eq_none]
  refine forall₂_congr fun x _ => ?_
  cases h.nodes x <;> simp

theorem Rep.remove_absent (r : h.Rep live free) (htsize : 0 < h.tsize) {key : K} (hnone : h.newest live key = none) :
    h.remove key = (-1, h) := by
  have hfst : (h.find key).1 = none := (r.find_fst htsize key).trans hnone
  cases hfind : h.find key with
  | mk found pPrev =>
    rw [hfind] at hfst
    have hfound : found = none := hfst
    subst hfound
    simp [remove, hfind]

/-- `Find` on a key that is there: the node before the found one is the last newer node of the bucket. -/
theorem Rep.find_eq {key : K} {newer older : List Nat} {x : Nat} {item : Item K V}
    (r : h.Rep (newer ++ x :: older) free) (htsize : 0 < h.tsize) (hnode : h.nodes x = some item)
    (hkey : item.key = key) (hnewer : h.newest newer key = none) :
    h.find key = (some x, (newer.filter fun y => h.bucketOf y = some (h.hashIndex key)).getLast?) := by
  have hlt : h.hashIndex key < h.tsize := Nat.mod_lt _ htsize
  have hlength := r.length_add
  have hbucket : h.bucketOf x = some (h.hashIndex key) := by simp [bucketOf, hnode, hkey]
  have hchain := r.bucket_chain _ hlt
  rw [List.filter_append, List.filter_cons_of_pos (by simpa using hbucket)] at hchain
  have hx : h.hasKey key x = true := by
    simp [hasKey, r.itemAt_eq (x := x) (by simp), hnode, hkey]
  have hbefore : ∀ y ∈ newer.filter fun y => h.bucketOf y = some (h.hashIndex key), h.hasKey key y = false := by
    intro y hy
    have hmem := List.mem_of_mem_filter hy
    have habsent := newest_eq_none.mp hnewer y hmem
    rw [hasKey, r.itemAt_eq (List.mem_append_left _ hmem)]
    cases hitem : h.nodes y with
    | none => rfl
    | some other => simpa using habsent other hitem
  have hfuel : (newer.filter fun y => h.bucketOf y = some (h.hashIndex key)).length < h.fsize + 1 := by
    have hle := List.length_filter_le (fun y => h.bucketOf y = some (h.hashIndex key)) newer
    simp only [List.length_append, List.length_cons] at hlength
    omega
  rw [find, probe_eq hx hbefore hchain hfuel, Option.or_none]

omit [DecidableEq K] in
/-- A chain without the predecessor does not notice the unlinking. -/
theorem unlinkNode_chain {key : K} {x : Nat} {pPrev head : Option Nat} {nodes : List Nat}
    (hchain : Chain h.pNext head nodes) (hprev : ∀ prev, pPrev = some prev → prev ∉ nodes) :
    Chain (h.unlinkNode key x pPrev).pNext head nodes := by
  rw [unlinkNode_pNext]
  cases pPrev with
  | none => exact hchain
  | some prev => exact hchain.update (hprev prev rfl) _

omit [DecidableEq K] in
/-- The bucket of the unlinked node, `before` being the newer nodes in it. -/
theorem unlinkNode_bucket {key : K} {x : Nat} {before after : List Nat}
    (hchain : Chain h.pNext (h.lookuptable (h.hashIndex key)) (before ++ x :: after))
    (hnodup : (before ++ x :: after).Nodup) :
    Chain (h.unlinkNode key x before.getLast?).pNext
      ((h.unlinkNode key x before.getLast?).lookuptable (h.hashIndex key)) (before ++ after) := by
  rw [unlinkNode_pNext]
  cases hlast : before.getLast? with
  | none =>
    rw [List.getLast?_eq_none_iff] at hlast
    subst hlast
    simpa [unlinkNode] using hchain.2
  | some prev =>
    obtain ⟨front, rfl⟩ := List.getLast?_eq_some_iff.mp hlast
    rw [List.append_assoc, List.singleton_append] at hchain hnodup ⊢
    exact hchain.unlink hnodup

omit [DecidableEq K] in
/-- Another bucket has the head it had. -/
theorem unlinkNode_lookuptable {key : K} {t : Nat} (ht : t ≠ h.hashIndex key) (x : Nat) (pPrev : Option Nat) :
    (h.unlinkNode key x pPrev).lookuptable t = h.lookuptable t := by
  cases pPrev with
  | none => simp [unlinkNode, ht]
  | some prev => rfl

omit [DecidableEq K] in
/-- Every bucket once `x` is unlinked from its own, where the newer nodes lead up to it. -/
theorem Rep.unlinkNode_buckets {key : K} {newer older : List Nat} {x t : Nat} (r : h.Rep (newer ++ x :: older) free)
    (hbucket : h.bucketOf x = some (h.hashIndex key)) (ht : t < h.tsize) {pPrev : Option Nat}
    (hpPrev : pPrev = (newer.filter fun y => h.bucketOf y = some (h.hashIndex key)).getLast?) :
    Chain (h.unlinkNode key x pPrev).pNext ((h.unlinkNode key x pPrev).lookuptable t)
      ((newer ++ older).filter fun y => h.bucketOf y = some t) := by
  have hchain := r.bucket_chain t ht
  by_cases heq : t = h.hashIndex key
  · subst heq
    have hnodup := (List.nodup_append.mp r.nodup).1.filter fun y => h.bucketOf y = some (h.hashIndex key)
    rw [List.filter_append, List.filter_cons_of_pos (by simpa using hbucket)] at hchain hnodup
    rw [List.filter_append, hpPrev]
    exact unlinkNode_bucket hchain hnodup
  · have hne : h.hashIndex key ≠ t := Ne.symm heq
    rw [List.filter_append, List.filter_cons_of_neg (by simpa [hbucket] using hne), ← List.filter_append] at hchain
    rw [unlinkNode_lookuptable heq]
    apply unlinkNode_chain hchain
    intro prev hlast hmem
    -- the predecessor is in the bucket of the key
    have hprev : h.bucketOf prev = some (h.hashIndex key) := by
      simpa using (List.mem_filter.mp (List.mem_of_getLast? (hpPrev.symm.trans hlast))).2
    have hsame : h.bucketOf prev = some t := by simpa using (List.mem_filter.mp hmem).2
    rw [hprev] at hsame
    exact hne (Option.some.inj hsame)

/-- `Remove` frees the newest node of the key; every other node keeps its entry and its place. -/
theorem Rep.remove {key : K} {newer older : List Nat} {x : Nat} {item : Item K V}
    (r : h.Rep (newer ++ x :: older) free) (htsize : 0 < h.tsize) (hnode : h.nodes x = some item)
    (hkey : item.key = key) (hnewer : h.newest newer key = none) :
    (h.remove key).1 = 1 ∧ (h.remove key).2.Rep (newer ++ older) (x :: free) ∧ (h.remove key).2.nodes = h.nodes := by
  have hfind := r.find_eq htsize hnode hkey hnewer
  obtain ⟨hres, hfs, hts, hfl, hnodes, htable, -, hsz⟩ := remove_eq hfind
  have hnext := remove_pNext hfind
  have hperm : (newer ++ older ++ x :: free).Perm (newer ++ x :: older ++ free) := by
    simp only [List.append_assoc, List.cons_append]
    exact (List.perm_middle).append_left newer
  have hnd := List.nodup_append.mp r.nodup
  have hxlive : x ∉ newer ++ older := (List.nodup_cons.mp (List.nodup_middle.mp hnd.1)).1
  have hxfree : x ∉ free := fun hx => hnd.2.2 x (by simp) x hx rfl
  have hbucketOf : (h.remove key).2.bucketOf = h.bucketOf := by
    funext y
    simp [bucketOf, hnodes, hashIndex, hts]
  have hbucket : h.bucketOf x = some (h.hashIndex key) := by simp [bucketOf, hnode, hkey]
  constructor
  · exact hres
  refine ⟨⟨?_, ?_, ?_, ?_, ?_, ?_, ?_, ?_⟩, hnodes⟩
  · exact hperm.nodup_iff.mpr r.nodup
  · intro y
    rw [hfs, hperm.mem_iff]
    exact r.mem_iff y
  · rw [hfs]
    obtain ⟨used, hnumbered⟩ := r.numbered
    exact ⟨used, hnumbered.remove⟩
  · intro y hy
    rw [hfs] at hy
    rw [remove_index hfind]
    exact r.index_eq y hy
  · rw [hnext, hfl]
    apply Chain.push _ hxfree
    apply unlinkNode_chain r.free_chain
    -- the predecessor is a newer node, so it is in use
    intro prev hlast hmem
    have hprev : prev ∈ newer := List.mem_of_mem_filter (List.mem_of_getLast? hlast)
    exact hnd.2.2 prev (by simp [hprev]) prev hmem rfl
  · intro t ht
    rw [hts] at ht
    have hxt : x ∉ (newer ++ older).filter fun y => h.bucketOf y = some t := fun hx =>
      hxlive (List.mem_of_mem_filter hx)
    rw [hbucketOf, hnext, htable]
    apply Chain.update _ hxt
    exact r.unlinkNode_buckets hbucket ht rfl
  · intro y hy
    rw [hnodes]
    apply r.filled
    simp only [List.mem_append, List.mem_cons] at hy ⊢
    tauto
  · rw [hsz, r.size_eq]
    simp

@[simp] theorem remove_fsize (h : FastHashBase K V) (key : K) : (h.remove key).2.fsize = h.fsize := by
  cases hfind : h.find key with
  | mk found pPrev =>
    cases found with
    | none => simp [FastHashBase.remove, hfind]
    | some x => exact (remove_eq hfind).2.1

@[simp] theorem remove_tsize (h : FastHashBase K V) (key : K) : (h.remove key).2.tsize = h.tsize := by
  cases hfind : h.find key with
  | mk found pPrev =>
    cases found with
    | none => simp [FastHashBase.remove, hfind]
    | some x => exact (remove_eq hfind).2.2.1

/-! ## Contents -/

variable {entries : List (Item K V)}

omit [FastHashKey K] [DecidableEq K] in
/-- The node of one entry, with the nodes of the newer and of the older entries. -/
theorem map_nodes_split {newer older : List (Item K V)} {item : Item K V}
    (hmap : live.map h.nodes = (newer ++ item :: older).map some) :
    ∃ newerNodes x olderNodes, live = newerNodes ++ x :: olderNodes ∧ newerNodes.map h.nodes = newer.map some ∧
      h.nodes x = some item ∧ olderNodes.map h.nodes = older.map some := by
  rw [List.map_append, List.map_cons, List.map_eq_append_iff] at hmap
  obtain ⟨newerNodes, rest, rfl, hnewer, hrest⟩ := hmap
  obtain ⟨x, olderNodes, rfl, hnode, holder⟩ := List.map_eq_cons_iff.mp hrest
  exact ⟨newerNodes, x, olderNodes, rfl, hnewer, hnode, holder⟩

omit [FastHashKey K] in
theorem newest_eq_none_of_map {key : K} (hmap : live.map h.nodes = entries.map some)
    (hentries : ∀ item ∈ entries, item.key ≠ key) : h.newest live key = none := by
  rw [newest_eq_none]
  intro x hx item hitem
  have hmem : some item ∈ entries.map some := by
    rw [← hmap, ← hitem]
    exact List.mem_map_of_mem hx
  exact hentries item (by simpa using hmem)

theorem Stores.remove_absent (s : h.Stores entries) (htsize : 0 < h.tsize) {key : K}
    (hnone : Multimap.find Item.key key entries = none) : h.remove key = (-1, h) := by
  obtain ⟨live, free, r, hmap⟩ := s
  exact r.remove_absent htsize (newest_eq_none_of_map hmap (Multimap.find_eq_none.mp hnone))

theorem Stores.remove (s : h.Stores entries) (htsize : 0 < h.tsize) {key : K} {item : Item K V}
    (hsome : Multimap.find Item.key key entries = some item) :
    (h.remove key).1 = 1 ∧ (h.remove key).2.Stores (Multimap.without Item.key key entries) := by
  obtain ⟨live, free, r, hmap⟩ := s
  obtain ⟨newer, older, rfl, hkey, hnewer⟩ := Multimap.find_eq_some hsome
  obtain ⟨newerNodes, x, olderNodes, rfl, hnewerNodes, hnode, holder⟩ := map_nodes_split hmap
  obtain ⟨hres, r', hnodes⟩ := r.remove htsize hnode hkey (newest_eq_none_of_map hnewerNodes hnewer)
  refine ⟨hres, newerNodes ++ olderNodes, x :: free, r', ?_⟩
  rw [Multimap.without_append hkey hnewer, hnodes, List.map_append, List.map_append, hnewerNodes, holder]

/-- One call of the table, as an operation on a multimap. -/
def perform (h : FastHashBase K V) : Multimap.Op (Item K V) K → FastHashBase K V
  | .insert item => (h.insert item.key item.value).2
  | .remove key => (h.remove key).2
  | .reset => h.reset

@[simp] theorem perform_fsize (h : FastHashBase K V) (op : Multimap.Op (Item K V) K) : (h.perform op).fsize = h.fsize := by
  cases op with
  | insert item => exact insert_fsize h item.key item.value
  | remove key => exact remove_fsize h key
  | reset => rfl

@[simp] theorem perform_tsize (h : FastHashBase K V) (op : Multimap.Op (Item K V) K) : (h.perform op).tsize = h.tsize := by
  cases op with
  | insert item => exact insert_tsize h item.key item.value
  | remove key => exact remove_tsize h key
  | reset => rfl

/-- The table does what a multimap of at most `fsize` entries does, of which an `int` can number all. -/
theorem Stores.without (s : h.Stores entries) (htsize : 0 < h.tsize) (key : K) :
    (h.remove key).2.Stores (Multimap.without Item.key key entries) := by
  cases hfound : Multimap.find Item.key key entries with
  | none =>
    rw [s.remove_absent htsize hfound, Multimap.without_eq_self hfound]
    exact s
  | some item => exact (s.remove htsize hfound).2

theorem Stores.perform (s : h.Stores entries) (hint : h.fsize ≤ INT_ELEMENTS) (htsize : 0 < h.tsize)
    (op : Multimap.Op (Item K V) K) :
    (h.perform op).Stores (Multimap.apply Item.key h.fsize entries op) := by
  cases op with
  | insert item =>
    simp only [FastHashBase.perform, Multimap.apply]
    split
    next hroom => exact (s.insert hroom (Nat.lt_of_lt_of_le hroom hint) item.key item.value).2
    next hfull =>
      have hlen : entries.length = h.fsize := by
        have hle := s.length_le
        omega
      rw [s.insert_full hlen]
      exact s
  | remove key => exact s.without htsize key
  | reset => exact reset_stores h

theorem Stores.foldl (ops : List (Multimap.Op (Item K V) K)) (s : h.Stores entries) (hint : h.fsize ≤ INT_ELEMENTS)
    (htsize : 0 < h.tsize) :
    (ops.foldl FastHashBase.perform h).Stores (ops.foldl (Multimap.apply Item.key h.fsize) entries) ∧
      (ops.foldl FastHashBase.perform h).fsize = h.fsize ∧ (ops.foldl FastHashBase.perform h).tsize = h.tsize := by
  induction ops generalizing h entries with
  | nil => exact ⟨s, rfl, rfl⟩
  | cons op ops ih =>
    have hnext := ih (s.perform hint htsize op) (by simpa using hint) (by simpa using htsize)
    simpa using hnext

end FastHashBase

end NatTester.Source
