import NatTester.Source.FastHashRemove
import Mathlib.Data.Nat.Sqrt

/-!
# Tables on the heap

`fasthash.cpp` and `FastHashDynamic`: the table width is the first prime from the
capacity on, in `unsigned int` arithmetic, and the arrays come from `new[]` with
whatever was in them.
-/
namespace NatTester.Source
open NatTester.Lib

/-- The inner loop of `FindPrime`: no `x` from 3 to `sqrt(result)+1` divides. -/
def isPrime (result : Nat) : Bool := (List.range' 3 (Nat.sqrt result + 1 - 2)).all fun x => result % x ≠ 0

/-- The outer loop of `FindPrime`. `result` is odd, so it comes to 1 before it can come round, and 1 ends the loop:
half of the 32-bit values bound it. -/
def findPrimeLoop : Nat → Nat → Nat
  | 0, result => result
  | fuel + 1, result => if isPrime result then result else findPrimeLoop fuel ((result + 2) % 0x100000000)

def findPrime (val : Nat) : Nat :=
  if val ≤ 2 then 2
  else if val = 3 then 3
  else findPrimeLoop 0x80000000 (if val % 2 = 0 then val + 1 else val)

/-- `FastHash_GetHashTableWidth`, called on a `size_t`. -/
def fastHash_GetHashTableWidth (maxConnections : Nat) : Nat := findPrime (maxConnections % 0x100000000)

theorem findPrimeLoop_odd (fuel result : Nat) (hodd : result % 2 = 1) : findPrimeLoop fuel result % 2 = 1 := by
  induction fuel generalizing result with
  | zero => exact hodd
  | succ fuel ih =>
    rw [findPrimeLoop]
    split
    · exact hodd
    · exact ih _ (by omega)

/-- The loop ends on a number it takes for a prime, not because its bound is used up. -/
theorem findPrimeLoop_isPrime (fuel result : Nat) (hodd : result % 2 = 1) (hlt : result < 0x100000000)
    (hfuel : result = 1 ∨ 0x100000001 ≤ result + 2 * fuel) : isPrime (findPrimeLoop fuel result) = true := by
  induction fuel generalizing result with
  | zero =>
    have hone : result = 1 := by omega
    subst hone
    decide
  | succ fuel ih =>
    rw [findPrimeLoop]
    split
    next hprime => exact hprime
    next hprime =>
      have hne : result ≠ 1 := by
        intro hone
        subst hone
        exact hprime (by decide)
      exact ih _ (by omega) (by omega) (by omega)

private theorem isPrime_small {val : Nat} (h2 : 2 ≤ val) (h3 : val ≤ 3) : isPrime val = true := by
  have hsqrt : Nat.sqrt val = 1 := Nat.eq_sqrt.mpr (by omega) |>.symm
  rw [isPrime, hsqrt]
  rfl

theorem findPrime_isPrime {val : Nat} (hlt : val < 0x100000000) : isPrime (findPrime val) = true := by
  rw [findPrime]
  split
  · exact isPrime_small (by decide) (by decide)
  split
  · exact isPrime_small (by decide) (by decide)
  · exact findPrimeLoop_isPrime _ _ (by split <;> omega) (by split <;> omega) (by split <;> omega)

theorem findPrime_pos (val : Nat) : 0 < findPrime val := by
  rw [findPrime]
  split
  · decide
  split
  · decide
  · have hodd := findPrimeLoop_odd 0x80000000 (if val % 2 = 0 then val + 1 else val) (by split <;> omega)
    omega

/-- The width search ends, on a width that is not 0. -/
theorem fastHash_GetHashTableWidth_spec (maxConnections : Nat) :
    isPrime (fastHash_GetHashTableWidth maxConnections) = true ∧ 0 < fastHash_GetHashTableWidth maxConnections :=
  ⟨findPrime_isPrime (Nat.mod_lt _ (by decide)), findPrime_pos _⟩

/-- What `new Item[fsize]`, `new ItemNode[fsize]`, `new ItemNodePtr[tsize]` and `new int[fsize]` return. -/
structure FastHashArrays (K V : Type) where
  nodes : Nat → Option (Item K V)
  itemnodes : Nat → ItemNode
  lookuptable : Nat → Option Nat
  indexlist : Nat → Int32

namespace FastHashBase

variable {K V : Type} [FastHashKey K] [DecidableEq K]

/-- `FastHashDynamic()`: no arrays yet. -/
def empty : FastHashBase K V := init 0 0 (fun _ => none) (fun _ => ⟨0, none⟩) (fun _ => none) none

/-- `InitTable(fsize, tsize)`; the arrays are found, `new` does not return NULL. -/
def initTable (h : FastHashBase K V) (arrays : FastHashArrays K V) (fsize tsize : Nat) : Int × FastHashBase K V :=
  if fsize = 0 then (-1, h)
  else
    let tsize := if tsize = 0 then fastHash_GetHashTableWidth fsize else tsize
    (1, init fsize tsize arrays.nodes arrays.itemnodes arrays.lookuptable (some arrays.indexlist))

/-- `*Lookup(key) = value`; `none` where the pointer is NULL. -/
def assign (h : FastHashBase K V) (key : K) (value : V) : Option (FastHashBase K V) :=
  (h.find key).1.map fun x =>
    let index := (h.itemnodes x).index
    { h with nodes := storeAt h.nodes index ((h.itemAt index).map fun item => { item with value }) }

variable {h : FastHashBase K V} {entries newer older : List (Item K V)} {item : Item K V}

omit [DecidableEq K] in
theorem initTable_stores (h : FastHashBase K V) (arrays : FastHashArrays K V) {fsize : Nat} (hfsize : 1 ≤ fsize) :
    (h.initTable arrays fsize 0).2.Stores [] ∧ (h.initTable arrays fsize 0).2.fsize = fsize ∧
      0 < (h.initTable arrays fsize 0).2.tsize := by
  have hne : fsize ≠ 0 := by omega
  simp only [initTable, if_neg hne, if_true]
  exact ⟨reset_stores _, rfl, (fastHash_GetHashTableWidth_spec fsize).2⟩

omit [DecidableEq K] in
/-- A node keeps its place when its value changes. -/
theorem Rep.setValue {live free : List Nat} {x : Nat} (r : h.Rep live free) (hnode : h.nodes x = some item) (value : V) :
    Rep { h with nodes := Function.update h.nodes x (some { item with value }) } live free := by
  have hbucketOf : bucketOf { h with nodes := Function.update h.nodes x (some { item with value }) } = h.bucketOf := by
    funext y
    by_cases hy : y = x
    · subst hy
      simp [bucketOf, hnode, hashIndex]
    · simp [bucketOf, hy, hashIndex]
  refine ⟨r.nodup, r.mem_iff, r.numbered, r.index_eq, r.free_chain, ?_, ?_, r.size_eq⟩
  · intro t ht
    rw [hbucketOf]
    exact r.bucket_chain t ht
  · intro y hy
    by_cases hyx : y = x
    · simp [hyx]
    · simpa [hyx] using r.filled y hy

/-- The write goes to the newest entry of the key. -/
theorem Stores.assign (s : h.Stores (newer ++ item :: older)) (htsize : 0 < h.tsize)
    (hnewer : ∀ other ∈ newer, other.key ≠ item.key) (value : V) :
    ∃ h', h.assign item.key value = some h' ∧ h'.Stores (newer ++ { item with value } :: older) ∧
      h'.fsize = h.fsize ∧ h'.tsize = h.tsize := by
  obtain ⟨live, free, r, hmap⟩ := s
  obtain ⟨newerNodes, x, olderNodes, rfl, hnewerNodes, hnode, holder⟩ := map_nodes_split hmap
  have habsent := newest_eq_none_of_map hnewerNodes hnewer
  have hfind := r.find_eq htsize hnode rfl habsent
  have hlive : x ∈ newerNodes ++ x :: olderNodes := by simp
  have hindex := r.index_eq x (r.lt_of_live hlive)
  have hassign : h.assign item.key value =
      some { h with nodes := Function.update h.nodes x (some { item with value }) } := by
    simp [FastHashBase.assign, hfind, hindex, itemAt_ofNat (r.lt_int hlive), storeAt_ofNat (r.lt_int hlive), hnode]
  have hdistinct := List.nodup_cons.mp (List.nodup_middle.mp (List.nodup_append.mp r.nodup).1)
  have hold : ∀ nodes : List Nat, x ∉ nodes →
      nodes.map (Function.update h.nodes x (some { item with value })) = nodes.map h.nodes := by
    intro nodes hx
    apply List.map_congr_left
    intro y hy
    exact Function.update_of_ne (fun heq : y = x => hx (heq ▸ hy)) _ _
  refine ⟨_, hassign, ⟨newerNodes ++ x :: olderNodes, free, r.setValue hnode value, ?_⟩, rfl, rfl⟩
  dsimp only
  rw [List.map_append, List.map_cons, Function.update_self, hold newerNodes fun hx => hdistinct.1 (by simp [hx]),
    hold olderNodes fun hx => hdistinct.1 (by simp [hx]), hnewerNodes, holder, List.map_append, List.map_cons]

end FastHashBase

end NatTester.Source
