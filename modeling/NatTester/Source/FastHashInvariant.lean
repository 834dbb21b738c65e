import NatTester.Source.FastHash
import NatTester.Lib.Multimap
import Mathlib.Data.Nat.ModEq

/-!
# What a FastHash table represents

`Rep h live free`: `live` are the nodes in use, newest first, `free` the nodes of
the free list; together they are all `fsize` nodes, and the chain of bucket `t`
is the part of `live` whose keys hash to `t`. The entries of the table are those
of `live`, so an older duplicate of a key stands behind the newer one. A node is
used for the first time only when all nodes before it are in use, so the nodes
that an `int` cannot number come last.
`Indexed` is the circular index list in its valid state.
-/
namespace NatTester.Source
open NatTester.Lib

namespace FastHashBase

variable {K V : Type} [FastHashKey K]

/-- The bucket of the key stored in node `x`. -/
def bucketOf (h : FastHashBase K V) (x : Nat) : Option Nat :=
  (h.nodes x).map fun item => h.hashIndex item.key

/-- `used` nodes have been in use, and the free list ends in the others. -/
structure Numbered (fsize : Nat) (live free : List Nat) (used : Nat) : Prop where
  within : used ≤ fsize
  int : used ≤ INT_ELEMENTS
  tail : ∃ recycled, free = recycled ++ List.range' used (fsize - used) ∧ ∀ x ∈ live ++ recycled, x < used

structure Rep (h : FastHashBase K V) (live free : List Nat) : Prop where
  nodup : (live ++ free).Nodup
  mem_iff : ∀ x, x ∈ live ++ free ↔ x < h.fsize
  numbered : ∃ used, Numbered h.fsize live free used
  index_eq : ∀ x, x < h.fsize → (h.itemnodes x).index = Int32.ofNat x
  free_chain : Chain h.pNext h.freelist free
  bucket_chain : ∀ t, t < h.tsize →
    Chain h.pNext (h.lookuptable t) (live.filter fun x => h.bucketOf x = some t)
  filled : ∀ x ∈ live, (h.nodes x).isSome
  size_eq : h.size = live.length

/-- The index list is valid and enumerates `order` from `indexStart`. -/
structure Indexed (h : FastHashBase K V) (order : List Nat) : Prop where
  valid : h.fIndexValid = true
  slots : ∃ list, h.indexlist = some list ∧
    ∀ i x, order[i]? = some x → list ((h.indexStart + i) % h.fsize) = Int32.ofNat x

variable {h : FastHashBase K V} {live free : List Nat}

theorem Rep.length_add (r : h.Rep live free) : live.length + free.length = h.fsize := by
  have hperm : (live ++ free).Perm (List.range h.fsize) := by
    rw [List.perm_ext_iff_of_nodup r.nodup List.nodup_range]
    simpa using r.mem_iff
  simpa using hperm.length_eq

theorem Rep.lt_of_live (r : h.Rep live free) {x : Nat} (hx : x ∈ live) : x < h.fsize :=
  (r.mem_iff x).mp (List.mem_append_left _ hx)

/-! ## The numbers of the nodes -/

theorem Rep.lt_int (r : h.Rep live free) {x : Nat} (hx : x ∈ live) : x < INT_ELEMENTS := by
  obtain ⟨used, -, hint, recycled, -, hbelow⟩ := r.numbered
  have hlt := hbelow x (List.mem_append_left _ hx)
  omega

omit [FastHashKey K] in
theorem itemAt_ofNat {x : Nat} (hx : x < INT_ELEMENTS) : h.itemAt (Int32.ofNat x) = h.nodes x := by
  rw [itemAt, element_ofNat hx, Option.bind_some]

/-- The entry of a node in use. -/
theorem Rep.itemAt_eq (r : h.Rep live free) {x : Nat} (hx : x ∈ live) : h.itemAt (h.itemnodes x).index = h.nodes x := by
  rw [r.index_eq x (r.lt_of_live hx), itemAt_ofNat (r.lt_int hx)]

/-- The nodes that have been in use are those in use and those free again. -/
theorem Rep.used_perm {used : Nat} {recycled : List Nat} (r : h.Rep live free) (hwithin : used ≤ h.fsize)
    (hfree : free = recycled ++ List.range' used (h.fsize - used)) (hbelow : ∀ x ∈ live ++ recycled, x < used) :
    (live ++ recycled).Perm (List.range used) := by
  have hnodup := r.nodup
  rw [hfree, ← List.append_assoc] at hnodup
  rw [List.perm_ext_iff_of_nodup (List.nodup_append.mp hnodup).1 List.nodup_range]
  intro x
  rw [List.mem_range]
  refine ⟨hbelow x, fun hx => ?_⟩
  have hmem := (r.mem_iff x).mpr (by omega)
  rw [hfree, ← List.append_assoc, List.mem_append, List.mem_range'_1] at hmem
  exact hmem.resolve_right (by omega)

/-- The next node has a number while fewer nodes are in use than an `int` can number. -/
theorem Rep.next_lt {x : Nat} (r : h.Rep live (x :: free)) (hlive : live.length < INT_ELEMENTS) : x < INT_ELEMENTS := by
  obtain ⟨used, hwithin, hint, recycled, hfree, hbelow⟩ := r.numbered
  have hlength := (r.used_perm hwithin hfree hbelow).length_eq
  rw [List.length_append, List.length_range] at hlength
  cases recycled with
  | nil =>
    have hx : x ∈ List.range' used (h.fsize - used) := by
      rw [List.nil_append] at hfree
      rw [← hfree]
      exact List.mem_cons_self
    have hfirst : x = used := by
      rw [List.nil_append] at hfree
      cases hrest : h.fsize - used with
      | zero => rw [hrest] at hfree; cases hfree
      | succ n => rw [hrest, List.range'_succ] at hfree; exact (List.cons.inj hfree).1
    rw [List.length_nil] at hlength
    omega
  | cons y recycled =>
    have hlt := hbelow x (by rw [(List.cons.inj hfree).1]; simp)
    omega

/-- With that many in use, the next node is the first one without a number. -/
theorem Rep.next_eq {x : Nat} (r : h.Rep live (x :: free)) (hlive : live.length = INT_ELEMENTS) : x = INT_ELEMENTS := by
  obtain ⟨used, hwithin, hint, recycled, hfree, hbelow⟩ := r.numbered
  have hlength := (r.used_perm hwithin hfree hbelow).length_eq
  rw [List.length_append, List.length_range] at hlength
  have hnone : recycled = [] := List.eq_nil_of_length_eq_zero (by omega)
  subst hnone
  rw [List.nil_append] at hfree
  cases hrest : h.fsize - used with
  | zero => rw [hrest] at hfree; cases hfree
  | succ n =>
    rw [hrest, List.range'_succ] at hfree
    have hfirst := (List.cons.inj hfree).1
    rw [List.length_nil] at hlength
    omega

theorem Numbered.reset (fsize : Nat) : Numbered fsize [] (List.range fsize) 0 := by
  refine ⟨Nat.zero_le _, Nat.zero_le _, [], ?_, by simp⟩
  rw [List.nil_append, Nat.sub_zero, List.range_eq_range']

/-- A node in use for the first time, or again. -/
theorem Numbered.insert {fsize used x : Nat} (n : Numbered fsize live (x :: free) used) (hx : x < INT_ELEMENTS) :
    ∃ used, Numbered fsize (x :: live) free used := by
  obtain ⟨hwithin, hint, recycled, hfree, hbelow⟩ := n
  cases recycled with
  | nil =>
    rw [List.nil_append] at hfree
    cases hrest : fsize - used with
    | zero => rw [hrest] at hfree; cases hfree
    | succ n =>
      rw [hrest, List.range'_succ] at hfree
      obtain ⟨rfl, rfl⟩ := List.cons.inj hfree
      refine ⟨x + 1, by omega, hx, [], ?_, ?_⟩
      · rw [List.nil_append, show fsize - (x + 1) = n by omega]
      · intro y hy
        rw [List.append_nil] at hy hbelow
        rcases List.mem_cons.mp hy with rfl | hy
        · exact Nat.lt_succ_self _
        · exact Nat.lt_succ_of_lt (hbelow y hy)
  | cons y recycled =>
    obtain ⟨rfl, rfl⟩ := List.cons.inj hfree
    refine ⟨used, hwithin, hint, recycled, rfl, fun y hy => hbelow y ?_⟩
    simp only [List.mem_append, List.mem_cons] at hy ⊢
    tauto

/-- A node in use is free again. -/
theorem Numbered.remove {fsize used x : Nat} {newer older : List Nat} (n : Numbered fsize (newer ++ x :: older) free used) :
    Numbered fsize (newer ++ older) (x :: free) used := by
  obtain ⟨hwithin, hint, recycled, rfl, hbelow⟩ := n
  refine ⟨hwithin, hint, x :: recycled, rfl, fun y hy => hbelow y ?_⟩
  simp only [List.mem_append, List.mem_cons] at hy ⊢
  tauto

/-! ## The empty table -/

omit [FastHashKey K] in
private theorem reset_free_chain (h : FastHashBase K V) (n : Nat) :
    ∀ a, a + n = h.fsize →
      Chain h.reset.pNext (if n = 0 then none else some a) (List.range' a n) := by
  induction n with
  | zero => intro a _; rfl
  | succ n ih =>
    intro a ha
    refine ⟨rfl, ?_⟩
    have hnext : h.reset.pNext a = if n = 0 then none else some (a + 1) := by
      have hlt : a < h.fsize := by omega
      have hlast : (a = h.fsize - 1) = (n = 0) := by
        apply propext
        omega
      simp [reset, pNext, hlt, hlast]
    rw [hnext]
    exact ih (a + 1) (by omega)

theorem reset_rep (h : FastHashBase K V) : h.reset.Rep [] (List.range h.fsize) where
  nodup := by simpa using List.nodup_range
  mem_iff := by simp [reset]
  numbered := ⟨0, .reset h.fsize⟩
  index_eq := by
    intro x hx
    have hx' : x < h.fsize := hx
    simp [reset, hx']
  free_chain := by
    have hchain := reset_free_chain h h.fsize 0 (Nat.zero_add _)
    rwa [← List.range_eq_range'] at hchain
  bucket_chain := by
    intro t ht
    have ht' : t < h.tsize := ht
    simp [reset, ht']
  filled := by simp
  size_eq := rfl

omit [FastHashKey K] in
theorem reset_indexed (h : FastHashBase K V) (hlist : h.indexlist.isSome) : h.reset.Indexed [] where
  valid := hlist
  slots := by
    obtain ⟨list, hl⟩ := Option.isSome_iff_exists.mp hlist
    exact ⟨list, hl, by simp⟩

/-! ## Insert -/

/-- Everything `Insert` does when the free list is not empty. -/
theorem insert_eq {x : Nat} (hfree : h.freelist = some x) (key : K) (value : V) :
    (h.insert key value).1 = 1 ∧
    (h.insert key value).2.fsize = h.fsize ∧
    (h.insert key value).2.tsize = h.tsize ∧
    (h.insert key value).2.freelist = h.pNext x ∧
    (h.insert key value).2.nodes =
      storeAt h.nodes (h.itemnodes x).index (some ⟨key, value⟩) ∧
    (h.insert key value).2.itemnodes =
      Function.update h.itemnodes x { h.itemnodes x with pNext := h.lookuptable (h.hashIndex key) } ∧
    (h.insert key value).2.lookuptable =
      Function.update h.lookuptable (h.hashIndex key) (some x) ∧
    (h.insert key value).2.fIndexValid = h.fIndexValid ∧
    (h.insert key value).2.indexStart = h.indexStart ∧
    (h.insert key value).2.size = h.size + 1 := by
  simp only [insert, hfree, updateIndexWithAdd]
  cases h.indexlist with
  | none => simp
  | some list =>
    simp only
    split <;> simp

@[simp] theorem insert_fsize (h : FastHashBase K V) (key : K) (value : V) :
    (h.insert key value).2.fsize = h.fsize := by
  cases hfree : h.freelist with
  | none => simp [insert, hfree]
  | some x => exact (insert_eq hfree key value).2.1

@[simp] theorem insert_tsize (h : FastHashBase K V) (key : K) (value : V) :
    (h.insert key value).2.tsize = h.tsize := by
  cases hfree : h.freelist with
  | none => simp [insert, hfree]
  | some x => exact (insert_eq hfree key value).2.2.1

@[simp] theorem insert_indexlist_isSome (h : FastHashBase K V) (key : K) (value : V) :
    (h.insert key value).2.indexlist.isSome = h.indexlist.isSome := by
  unfold insert updateIndexWithAdd
  cases h.freelist with
  | none => rfl
  | some x =>
    cases hlist : h.indexlist with
    | none => simp
    | some list =>
      simp only
      split <;> simp

/-- The node `Insert` takes is appended to the enumeration of a valid index. -/
theorem insert_indexlist {x : Nat} (hfree : h.freelist = some x) (hvalid : h.fIndexValid = true)
    (hsize : h.size < h.fsize) (key : K) (value : V) :
    (h.insert key value).2.indexlist = h.indexlist.map fun list =>
      Function.update list ((h.size + h.indexStart) % h.fsize) (h.itemnodes x).index := by
  simp only [insert, hfree, updateIndexWithAdd]
  cases h.indexlist with
  | none => rfl
  | some list => simp [hvalid, hsize]

theorem insert_pNext {x : Nat} (hfree : h.freelist = some x) (key : K) (value : V) :
    (h.insert key value).2.pNext =
      Function.update h.pNext x (h.lookuptable (h.hashIndex key)) := by
  obtain ⟨-, -, -, -, -, hitem, -⟩ := insert_eq hfree key value
  funext y
  rw [pNext, hitem]
  by_cases hy : y = x
  · subst hy
    simp
  · simp [hy, pNext]

theorem Rep.insert_full (r : h.Rep live []) (key : K) (value : V) : h.insert key value = (-1, h) := by
  have hfree : h.freelist = none := r.free_chain
  simp [insert, hfree]

/-- `Insert` takes the first free node and makes it the newest one in use. -/
theorem Rep.insert {x : Nat} (r : h.Rep live (x :: free)) (hlive : live.length < INT_ELEMENTS) (key : K) (value : V) :
    (h.insert key value).1 = 1 ∧ (h.insert key value).2.Rep (x :: live) free ∧
      (h.insert key value).2.nodes = Function.update h.nodes x (some ⟨key, value⟩) := by
  have hfree : h.freelist = some x := r.free_chain.1
  obtain ⟨hres, hfs, hts, hfl, hnodes, hitem, htable, -, -, hsz⟩ := insert_eq hfree key value
  have hnext := insert_pNext hfree key value
  have hxlt : x < h.fsize := (r.mem_iff x).mp (by simp)
  have hxint := r.next_lt hlive
  rw [r.index_eq x hxlt, storeAt_ofNat hxint] at hnodes
  have hnd := List.nodup_append.mp r.nodup
  have hxlive : x ∉ live := fun hx => hnd.2.2 x hx x (by simp) rfl
  have hxfree : x ∉ free := (List.nodup_cons.mp hnd.2.1).1
  have hbucket : (h.insert key value).2.bucketOf x = some (h.hashIndex key) := by
    simp [bucketOf, hnodes, hashIndex]
  have hold : ∀ y ∈ live, (h.insert key value).2.bucketOf y = h.bucketOf y := by
    intro y hy
    have hne : y ≠ x := fun e => hxlive (e ▸ hy)
    simp [bucketOf, hnodes, Function.update_of_ne hne, hashIndex]
  refine ⟨hres, ⟨?_, ?_, ?_, ?_, ?_, ?_, ?_, ?_⟩, hnodes⟩
  · have hperm : (x :: live ++ free).Perm (live ++ x :: free) := List.perm_middle.symm
    exact hperm.nodup_iff.mpr r.nodup
  · intro y
    rw [hfs, ← r.mem_iff y]
    simp only [List.mem_append, List.mem_cons]
    tauto
  · rw [hfs]
    obtain ⟨used, hnumbered⟩ := r.numbered
    exact hnumbered.insert hxint
  · intro y hy
    rw [hfs] at hy
    rw [hitem]
    by_cases hyx : y = x
    · subst hyx
      simpa using r.index_eq y hy
    · simpa [hyx] using r.index_eq y hy
  · rw [hnext, hfl]
    exact r.free_chain.2.update hxfree _
  · intro t ht
    rw [hts] at ht
    have hfilter : (x :: live).filter (fun y => (h.insert key value).2.bucketOf y = some t) =
        if h.hashIndex key = t then x :: live.filter (fun y => h.bucketOf y = some t)
        else live.filter fun y => h.bucketOf y = some t := by
      rw [List.filter_cons, hbucket, List.filter_congr fun y hy => by rw [hold y hy]]
      simp
    have hxt : x ∉ live.filter fun y => h.bucketOf y = some t := fun hx =>
      hxlive (List.mem_of_mem_filter hx)
    rw [hfilter, hnext, htable]
    split
    next heq =>
      subst heq
      rw [Function.update_self]
      exact (r.bucket_chain _ ht).push hxt
    next hne =>
      rw [Function.update_of_ne (Ne.symm hne)]
      exact (r.bucket_chain t ht).update hxt _
  · intro y hy
    rw [hnodes]
    rcases List.mem_cons.mp hy with rfl | hy
    · simp
    · have hne : y ≠ x := fun e => hxlive (e ▸ hy)
      rw [Function.update_of_ne hne]
      exact r.filled y hy
  · rw [hsz, r.size_eq, List.length_cons]

/-- `Insert` into a table with room adds one entry and keeps the others. -/
theorem Rep.insert_room (r : h.Rep live free) (hroom : live.length < h.fsize) (hlive : live.length < INT_ELEMENTS)
    (key : K) (value : V) :
    ∃ x rest, free = x :: rest ∧ (h.insert key value).1 = 1 ∧ (h.insert key value).2.Rep (x :: live) rest ∧
      (x :: live).map (h.insert key value).2.nodes = some ⟨key, value⟩ :: live.map h.nodes := by
  cases free with
  | nil =>
    have hlength := r.length_add
    simp only [List.length_nil] at hlength
    omega
  | cons x rest =>
    obtain ⟨hres, r', hnodes⟩ := r.insert hlive key value
    have hxlive : x ∉ live := (List.nodup_cons.mp (List.nodup_append.mp r'.nodup).1).1
    have hold : live.map (h.insert key value).2.nodes = live.map h.nodes := by
      apply List.map_congr_left
      intro y hy
      rw [hnodes, Function.update_of_ne fun e : y = x => hxlive (e ▸ hy)]
    refine ⟨x, rest, rfl, hres, r', ?_⟩
    rw [List.map_cons, hold, hnodes, Function.update_self]

theorem Indexed.insert {order : List Nat} {x : Nat} (ix : h.Indexed order)
    (r : h.Rep live (x :: free)) (hlen : order.length = live.length) (key : K) (value : V) :
    (h.insert key value).2.Indexed (order ++ [x]) := by
  have hfree : h.freelist = some x := r.free_chain.1
  obtain ⟨-, hfs, -, -, -, -, -, hval, hstart, -⟩ := insert_eq hfree key value
  have hxlt : x < h.fsize := (r.mem_iff x).mp (by simp)
  have hsize := r.size_eq
  have hlength := r.length_add
  rw [List.length_cons] at hlength
  obtain ⟨list, hlist, hslots⟩ := ix.slots
  have hnew := insert_indexlist hfree ix.valid (by omega) key value
  rw [hlist, Option.map_some, r.index_eq x hxlt] at hnew
  refine ⟨by rw [hval, ix.valid], _, hnew, ?_⟩
  intro i y hy
  rw [hfs, hstart]
  rcases Nat.lt_trichotomy i order.length with hi | hi | hi
  · rw [List.getElem?_append_left hi] at hy
    -- two slots below the table size coincide only for equal positions
    have hne : (h.indexStart + i) % h.fsize ≠ (h.size + h.indexStart) % h.fsize := by
      intro heq
      rw [Nat.add_comm h.size] at heq
      have hmod : Nat.ModEq h.fsize i h.size := Nat.ModEq.add_left_cancel' _ heq
      have := Nat.ModEq.eq_of_lt_of_lt hmod (by omega) (by omega)
      omega
    rw [Function.update_of_ne hne]
    exact hslots i y hy
  · subst hi
    rw [List.getElem?_append_right (Nat.le_refl _)] at hy
    simp only [Nat.sub_self, List.getElem?_cons_zero, Option.some.injEq] at hy
    rw [hlen, ← hsize, Nat.add_comm h.indexStart, Function.update_self, hy]
  · rw [List.getElem?_eq_none (by simp; omega)] at hy
    cases hy

/-! ## Lookup -/

/-- With a valid index, entry `i` is that of the `i`-th enumerated node. -/
theorem Indexed.lookupByIndex_eq {order : List Nat} (ix : h.Indexed order) (r : h.Rep live free)
    (hint : h.fsize ≤ INT_ELEMENTS) (hlen : order.length = live.length) (hsmall : ∀ x ∈ order, x < INT_ELEMENTS)
    (index : Nat) :
    h.lookupByIndex index = (order[index]?.bind h.nodes, h) := by
  obtain ⟨list, hlist, hslots⟩ := ix.slots
  have hsize := r.size_eq
  have hlength := r.length_add
  by_cases hlt : index < order.length
  · have hge : ¬ (index ≥ h.size) := by omega
    have hget := List.getElem?_eq_getElem hlt
    have hslot : (h.indexStart + index) % h.fsize < INT_ELEMENTS :=
      Nat.lt_of_lt_of_le (Nat.mod_lt _ (by omega)) hint
    have hnode : order[index] < INT_ELEMENTS := hsmall _ (List.getElem_mem hlt)
    simp [lookupByIndex, hlist, ix.valid, hge, hget, hslots index _ hget, element_ofNat hslot, itemAt_ofNat hnode]
  · have hge : index ≥ h.size := by omega
    simp [lookupByIndex, hge, List.getElem?_eq_none (Nat.le_of_not_lt hlt)]

section Lookup
variable [DecidableEq K]

omit [FastHashKey K] in
/-- The probe loop returns the first node of the chain that has the key. -/
theorem probe_fst {key : K} {nodes : List Nat} :
    ∀ {fuel : Nat} {pPrev head : Option Nat}, Chain h.pNext head nodes → nodes.length < fuel →
      (h.probe key fuel pPrev head).1 = nodes.find? (h.hasKey key) := by
  induction nodes with
  | nil =>
    rintro fuel pPrev head rfl hfuel
    obtain ⟨n, rfl⟩ : ∃ n, fuel = n + 1 := ⟨fuel - 1, by simp at hfuel; omega⟩
    rfl
  | cons x nodes ih =>
    rintro fuel pPrev head ⟨rfl, hchain⟩ hfuel
    rw [List.length_cons] at hfuel
    obtain ⟨n, rfl⟩ : ∃ n, fuel = n + 1 := ⟨fuel - 1, by omega⟩
    by_cases hkey : h.hasKey key x = true
    · simp [probe, hkey]
    · simp only [probe, hkey, List.find?_cons]
      exact ih hchain (by omega)

omit [FastHashKey K] [DecidableEq K] in
private theorem find?_congr {p q : Nat → Bool} {xs : List Nat} (h : ∀ x ∈ xs, p x = q x) :
    xs.find? p = xs.find? q := by
  induction xs with
  | nil => rfl
  | cons x xs ih =>
    rw [List.find?_cons, List.find?_cons, h x (by simp), ih fun y hy => h y (by simp [hy])]

theorem Rep.find_fst (r : h.Rep live free) (htsize : 0 < h.tsize) (key : K) :
    (h.find key).1 = live.find? fun x => (h.nodes x).any fun item => item.key = key := by
  have hlt : h.hashIndex key < h.tsize := Nat.mod_lt _ htsize
  have hlength := r.length_add
  have hfilter := List.length_filter_le (fun x => h.bucketOf x = some (h.hashIndex key)) live
  rw [find, probe_fst (r.bucket_chain _ hlt) (by omega), List.find?_filter]
  -- a node that has the key is in the bucket of the key
  apply find?_congr
  intro x hx
  rw [hasKey, r.itemAt_eq hx]
  cases hnode : h.nodes x with
  | none => simp
  | some item =>
    simp only [Option.any_some, bucketOf, hnode, Option.map_some, Option.some.injEq]
    by_cases hk : item.key = key <;> simp [hk]

/-- `Lookup` returns the newest entry of the key. -/
theorem Rep.lookup_eq (r : h.Rep live free) (htsize : 0 < h.tsize) (key : K) :
    h.lookup key = ((live.filterMap h.nodes).find? fun item => item.key = key).map Item.value := by
  rw [lookup, r.find_fst htsize, List.find?_filterMap, Option.map_bind]
  cases hfound : live.find? fun x => (h.nodes x).any fun item => item.key = key with
  | none => rfl
  | some x =>
    simp [r.itemAt_eq (List.mem_of_find?_eq_some hfound)]

/-- A node that an `int` cannot number enters its bucket, but its entry is written in front of the array. -/
theorem Rep.insert_wrapped {x : Nat} (r : h.Rep live (x :: free)) (hlive : live.length = INT_ELEMENTS)
    (htsize : 0 < h.tsize) (key : K) (value : V) :
    (h.insert key value).1 = 1 ∧ (h.insert key value).2.size = h.size + 1 ∧
      ∀ k, (h.insert key value).2.lookup k = h.lookup k := by
  have hx := r.next_eq hlive
  obtain ⟨hres, hfs, hts, -, hnodes, hitem, htable, -, -, hsz⟩ := insert_eq r.free_chain.1 key value
  have hnext := insert_pNext r.free_chain.1 key value
  have hindex := r.index_eq x ((r.mem_iff x).mp (by simp))
  rw [hindex, hx, storeAt_wrapped] at hnodes
  have hsame : ∀ y, ((h.insert key value).2.itemnodes y).index = (h.itemnodes y).index := by
    intro y
    rw [hitem]
    by_cases hy : y = x
    · subst hy
      simp
    · simp [hy]
  have hitemAt : (h.insert key value).2.itemAt = h.itemAt := by
    funext index
    rw [itemAt, hnodes, itemAt]
  have hhasKey : ∀ k, (h.insert key value).2.hasKey k = h.hasKey k := by
    intro k
    funext y
    rw [hasKey, hsame, hitemAt, hasKey]
  refine ⟨hres, hsz, fun k => ?_⟩
  have hlt : h.hashIndex k < h.tsize := Nat.mod_lt _ htsize
  have hbucket := r.bucket_chain _ hlt
  have hlength := r.length_add
  rw [List.length_cons] at hlength
  have hfilter := List.length_filter_le (fun y => h.bucketOf y = some (h.hashIndex k)) live
  have hxt : x ∉ live.filter fun y => h.bucketOf y = some (h.hashIndex k) := fun hmem =>
    (List.nodup_append.mp r.nodup).2.2 x (List.mem_of_mem_filter hmem) x (by simp) rfl
  have hhash : (h.insert key value).2.hashIndex k = h.hashIndex k := by rw [hashIndex, hts, hashIndex]
  have hfound : ((h.insert key value).2.find k).1 = (h.find k).1 := by
    rw [find, find, hhash, hfs, htable, probe_fst hbucket (by omega)]
    by_cases heq : h.hashIndex k = h.hashIndex key
    · have hchain : Chain (h.insert key value).2.pNext (some x)
          (x :: live.filter fun y => h.bucketOf y = some (h.hashIndex k)) := by
        rw [hnext, ← heq]
        exact hbucket.push hxt
      have hnot : h.hasKey k x = false := by rw [hasKey, hindex, hx, itemAt, element_wrapped]; rfl
      rw [heq, Function.update_self, ← heq, probe_fst hchain (by rw [List.length_cons]; omega), hhasKey, List.find?_cons,
        hnot]
    · have hchain : Chain (h.insert key value).2.pNext (h.lookuptable (h.hashIndex k))
          (live.filter fun y => h.bucketOf y = some (h.hashIndex k)) := by
        rw [hnext]
        exact hbucket.update hxt _
      rw [Function.update_of_ne heq, probe_fst hchain (by omega), hhasKey]
  rw [lookup, lookup, hfound, hitemAt]
  simp only [hsame]

end Lookup

/-! ## Contents -/

/-- The table holds `entries`, the newest first. -/
def Stores (h : FastHashBase K V) (entries : List (Item K V)) : Prop :=
  ∃ live free, h.Rep live free ∧ live.map h.nodes = entries.map some

variable {entries : List (Item K V)}

theorem reset_stores (h : FastHashBase K V) : h.reset.Stores [] := ⟨[], List.range h.fsize, reset_rep h, rfl⟩

theorem Stores.size_eq (s : h.Stores entries) : h.size = entries.length := by
  obtain ⟨live, free, r, hmap⟩ := s
  have hlen := congrArg List.length hmap
  simp only [List.length_map] at hlen
  rw [r.size_eq, hlen]

theorem Stores.length_le (s : h.Stores entries) : entries.length ≤ h.fsize := by
  have hsize := s.size_eq
  obtain ⟨live, free, r, -⟩ := s
  have hlength := r.length_add
  have hlive := r.size_eq
  omega

theorem Stores.length_le_int (s : h.Stores entries) : entries.length ≤ INT_ELEMENTS := by
  obtain ⟨live, free, r, hmap⟩ := s
  have hlength := congrArg List.length hmap
  rw [List.length_map, List.length_map] at hlength
  obtain ⟨used, hwithin, hint, recycled, hfree, hbelow⟩ := r.numbered
  have hused := (r.used_perm hwithin hfree hbelow).length_eq
  rw [List.length_append, List.length_range] at hused
  omega

theorem Stores.insert_full (s : h.Stores entries) (hfull : entries.length = h.fsize) (key : K) (value : V) :
    h.insert key value = (-1, h) := by
  have hsize := s.size_eq
  obtain ⟨live, free, r, -⟩ := s
  have hlength := r.length_add
  have hlive := r.size_eq
  have hnil : free = [] := List.eq_nil_of_length_eq_zero (by omega)
  subst hnil
  exact r.insert_full key value

theorem Stores.insert (s : h.Stores entries) (hroom : entries.length < h.fsize) (hint : entries.length < INT_ELEMENTS)
    (key : K) (value : V) :
    (h.insert key value).1 = 1 ∧ (h.insert key value).2.Stores (⟨key, value⟩ :: entries) := by
  have hsize := s.size_eq
  obtain ⟨live, free, r, hmap⟩ := s
  have hlive := r.size_eq
  obtain ⟨x, rest, -, hres, r', hmap'⟩ := r.insert_room (by omega) (by omega) key value
  refine ⟨hres, x :: live, rest, r', ?_⟩
  rw [hmap', hmap, List.map_cons]

theorem Stores.lookup_eq [DecidableEq K] (s : h.Stores entries) (htsize : 0 < h.tsize) (key : K) :
    h.lookup key = (Multimap.find Item.key key entries).map Item.value := by
  obtain ⟨live, free, r, hmap⟩ := s
  have hentries : live.filterMap h.nodes = entries := by
    have hid := congrArg (List.filterMap id) hmap
    rw [List.filterMap_map, List.filterMap_map] at hid
    simpa using hid
  rw [r.lookup_eq htsize, hentries, Multimap.find]

/-- The table takes an entry that it then misses. -/
theorem Stores.insert_wrapped [DecidableEq K] (s : h.Stores entries) (hroom : entries.length < h.fsize)
    (hint : entries.length = INT_ELEMENTS) (htsize : 0 < h.tsize) (key : K) (value : V) :
    (h.insert key value).1 = 1 ∧ (h.insert key value).2.size = h.size + 1 ∧
      ∀ k, (h.insert key value).2.lookup k = h.lookup k := by
  have hsize := s.size_eq
  obtain ⟨live, free, r, -⟩ := s
  have hlive := r.size_eq
  have hlength := r.length_add
  cases free with
  | nil =>
    rw [List.length_nil] at hlength
    omega
  | cons x free => exact r.insert_wrapped (by omega) htsize key value

/-! ## Tables that are only filled -/

/-- A table filled with `entries`, in this order, since it was last empty. -/
def Filled (h : FastHashBase K V) (entries : List (Item K V)) : Prop :=
  ∃ live free, h.Rep live free ∧ h.Indexed live.reverse ∧
    live.map h.nodes = (entries.map some).reverse

theorem Filled.stores (f : h.Filled entries) : h.Stores entries.reverse := by
  obtain ⟨live, free, r, -, hmap⟩ := f
  exact ⟨live, free, r, by rw [hmap, List.map_reverse]⟩

theorem reset_filled (h : FastHashBase K V) (hlist : h.indexlist.isSome) : h.reset.Filled [] :=
  ⟨[], List.range h.fsize, reset_rep h, reset_indexed h hlist, rfl⟩

theorem Filled.size_eq (f : h.Filled entries) : h.size = entries.length := by
  rw [f.stores.size_eq, List.length_reverse]

theorem Filled.insert (f : h.Filled entries) (hroom : entries.length < h.fsize) (hint : h.fsize ≤ INT_ELEMENTS)
    (key : K) (value : V) :
    (h.insert key value).1 = 1 ∧ (h.insert key value).2.Filled (entries ++ [⟨key, value⟩]) := by
  have hsize := f.size_eq
  obtain ⟨live, free, r, ix, hmap⟩ := f
  have hlive := r.size_eq
  obtain ⟨x, rest, rfl, hres, r', hmap'⟩ := r.insert_room (by omega) (by omega) key value
  refine ⟨hres, x :: live, rest, r', ?_, ?_⟩
  · rw [List.reverse_cons]
    exact ix.insert r List.length_reverse key value
  · rw [hmap', hmap]
    simp

theorem Filled.insert_full (f : h.Filled entries) (hfull : entries.length = h.fsize) (key : K)
    (value : V) : h.insert key value = (-1, h) :=
  f.stores.insert_full (by rw [List.length_reverse, hfull]) key value

theorem Filled.length_le (f : h.Filled entries) : entries.length ≤ h.fsize := by
  have hle := f.stores.length_le
  rwa [List.length_reverse] at hle

theorem Filled.lookupByIndex_eq (f : h.Filled entries) (hint : h.fsize ≤ INT_ELEMENTS) (index : Nat) :
    h.lookupByIndex index = (entries[index]?, h) := by
  obtain ⟨live, free, r, ix, hmap⟩ := f
  have hrev : live.reverse.map h.nodes = entries.map some := by
    rw [List.map_reverse, hmap, List.reverse_reverse]
  rw [ix.lookupByIndex_eq r hint List.length_reverse fun x hx => r.lt_int (List.mem_reverse.mp hx)]
  have hget := congrArg (fun l => l[index]?) hrev
  simp only [List.getElem?_map] at hget
  cases hx : live.reverse[index]? with
  | none =>
    rw [hx] at hget
    cases he : entries[index]? with
    | none => rfl
    | some e => simp [he] at hget
  | some x =>
    rw [hx] at hget
    cases he : entries[index]? with
    | none => simp [he] at hget
    | some e =>
      rw [he] at hget
      simpa using hget

theorem Filled.lookup_eq [DecidableEq K] (f : h.Filled entries) (htsize : 0 < h.tsize) (key : K) :
    h.lookup key = (entries.reverse.find? fun item => item.key = key).map Item.value := by
  rw [f.stores.lookup_eq htsize, Multimap.find]

end FastHashBase

end NatTester.Source
