import NatTester.Lib.Chain
import Mathlib.Data.List.Perm.Basic

/-!
# FastHash

`fasthash.h`. A table of at most `fsize` entries in `tsize` buckets. The arrays
are functions on their indices; a node is its index in `_itemnodes`, and `none`
is the NULL node. The number a node has for its entry is an `int`. Inserting a key
that is already there hides the older entry.
-/
namespace NatTester.Source
open NatTester.Lib

/-- `FastHash_Hash` on the key type. -/
class FastHashKey (K : Type) where
  hash : K → Nat

/-- `FastHash_Hash(signed int)` on a promoted `uint16_t`. -/
instance : FastHashKey UInt16 := ⟨UInt16.toNat⟩

structure Item (K V : Type) where
  key : K
  value : V
  deriving DecidableEq, Repr

structure ItemNode where
  index : Int32
  pNext : Option Nat

/-- The element of an array that an `int` names. A negative one is in front of the array. -/
def element (index : Int32) : Option Nat := if 0 ≤ index then some index.toNatClampNeg else none

/-- A write in front of an array leaves the array as it was. -/
def storeAt {α : Type} (array : Nat → α) (index : Int32) (value : α) : Nat → α :=
  match element index with
  | some i => Function.update array i value
  | none => array

/-- How many elements of an array an `int` can name. -/
def INT_ELEMENTS : Nat := 0x80000000

theorem element_ofNat {x : Nat} (hx : x < INT_ELEMENTS) : element (Int32.ofNat x) = some x := by
  have hlt : x < 2 ^ 31 := hx
  have hint := Int32.toInt_ofNat_of_lt hlt
  have hpos : (0 : Int32) ≤ Int32.ofNat x := by
    rw [Int32.le_iff_toInt_le, hint]
    exact Int.natCast_nonneg x
  rw [element, if_pos hpos, Int32.toNatClampNeg_ofNat_of_lt hlt]

theorem ofNat_inj {x y : Nat} (hx : x < INT_ELEMENTS) (hy : y < INT_ELEMENTS) (h : Int32.ofNat x = Int32.ofNat y) : x = y := by
  have helement := congrArg element h
  rw [element_ofNat hx, element_ofNat hy] at helement
  exact Option.some.inj helement

/-- The first number that an `int` wraps. -/
theorem element_wrapped : element (Int32.ofNat INT_ELEMENTS) = none := by decide

theorem storeAt_ofNat {α : Type} {x : Nat} (hx : x < INT_ELEMENTS) (array : Nat → α) (value : α) :
    storeAt array (Int32.ofNat x) value = Function.update array x value := by
  rw [storeAt, element_ofNat hx]

theorem storeAt_wrapped {α : Type} (array : Nat → α) (value : α) : storeAt array (Int32.ofNat INT_ELEMENTS) value = array := by
  rw [storeAt, element_wrapped]

/-- `nodes i = none` is an entry never written; `indexlist = none` is NULL. -/
structure FastHashBase (K V : Type) where
  fsize : Nat
  tsize : Nat
  nodes : Nat → Option (Item K V)
  itemnodes : Nat → ItemNode
  freelist : Option Nat
  lookuptable : Nat → Option Nat
  indexlist : Option (Nat → Int32)
  fIndexValid : Bool
  indexStart : Nat
  size : Nat

namespace FastHashBase

variable {K V : Type} [DecidableEq K] [FastHashKey K]

def pNext (h : FastHashBase K V) (x : Nat) : Option Nat := (h.itemnodes x).pNext

/-- `_nodes[index]`; what stands in front of the array is no entry. -/
def itemAt (h : FastHashBase K V) (index : Int32) : Option (Item K V) := (element index).bind h.nodes

/-- `_nodes[pProbe->index].key == key` -/
def hasKey (h : FastHashBase K V) (key : K) (x : Nat) : Bool :=
  (h.itemAt (h.itemnodes x).index).any fun item => item.key = key

/-- The loop of `Find`: the probed node and the one before it. The chains have at
most `fsize` nodes, which bounds the loop. -/
def probe (h : FastHashBase K V) (key : K) : Nat → Option Nat → Option Nat → Option Nat × Option Nat
  | 0, pPrev, _ => (none, pPrev)
  | _ + 1, pPrev, none => (none, pPrev)
  | fuel + 1, pPrev, some x =>
    if h.hasKey key x then (some x, pPrev) else h.probe key fuel (some x) (h.pNext x)

def hashIndex (h : FastHashBase K V) (key : K) : Nat := FastHashKey.hash key % h.tsize

/-- `Find(key, &hashindex, &pPrev)`: the node and its predecessor. -/
def find (h : FastHashBase K V) (key : K) : Option Nat × Option Nat :=
  h.probe key (h.fsize + 1) none (h.lookuptable (h.hashIndex key))

/-- The inner loop of `ReIndex`: `index` and `_indexlist` after one bucket. -/
def reIndexChain (h : FastHashBase K V) : Nat → Option Nat → Int32 × (Nat → Int32) → Int32 × (Nat → Int32)
  | 0, _, acc => acc
  | _ + 1, none, acc => acc
  | fuel + 1, some x, (index, list) =>
    h.reIndexChain fuel (h.pNext x) (index + 1, storeAt list index (h.itemnodes x).index)

def reIndex (h : FastHashBase K V) : FastHashBase K V :=
  match h.indexlist with
  | none => h
  | some list =>
    if h.size = 0 then h
    else
      let filled := (List.range h.tsize).foldl
        (fun acc t => h.reIndexChain (h.fsize + 1) (h.lookuptable t) acc) (0, list)
      { h with indexlist := some filled.2, fIndexValid := true, indexStart := 0 }

def updateIndexWithAdd (h : FastHashBase K V) (x : Nat) : FastHashBase K V :=
  match h.indexlist with
  | none => h
  | some list =>
    if h.fIndexValid ∧ h.size < h.fsize then
      let pos := (h.size + h.indexStart) % h.fsize
      { h with indexlist := some (Function.update list pos (h.itemnodes x).index) }
    else h

def updateIndexWithRemove (h : FastHashBase K V) (x : Nat) : FastHashBase K V :=
  match h.indexlist with
  | none => h
  | some list =>
    if h.size = 0 ∨ (h.size > 1 ∧ h.fIndexValid = false) then h
    else if h.size = 1 then { h with fIndexValid := true, indexStart := 0 }
    else if (h.itemnodes x).index = list h.indexStart then
      { h with indexStart := (h.indexStart + 1) % h.fsize }
    else if (h.itemnodes x).index = list ((h.indexStart + (h.size - 1)) % h.fsize) then h
    else { h with fIndexValid := false }

def reset (h : FastHashBase K V) : FastHashBase K V :=
  { h with
    lookuptable := fun t => if t < h.tsize then none else h.lookuptable t
    itemnodes := fun x =>
      if x < h.fsize then ⟨Int32.ofNat x, if x = h.fsize - 1 then none else some (x + 1)⟩ else h.itemnodes x
    -- `_itemnodes` is NULL exactly in the table of size 0
    freelist := if h.fsize = 0 then none else some 0
    size := 0
    fIndexValid := h.indexlist.isSome
    indexStart := 0 }

def insert (h : FastHashBase K V) (key : K) (value : V) : Int × FastHashBase K V :=
  match h.freelist with
  | none => (-1, h)
  | some x =>
    let hashindex := h.hashIndex key
    let pHead := h.lookuptable hashindex
    let linked : FastHashBase K V :=
      { h with
        freelist := h.pNext x
        nodes := storeAt h.nodes (h.itemnodes x).index (some ⟨key, value⟩)
        itemnodes := Function.update h.itemnodes x { h.itemnodes x with pNext := pHead }
        lookuptable := Function.update h.lookuptable hashindex (some x) }
    let indexed := linked.updateIndexWithAdd x
    (1, { indexed with size := indexed.size + 1 })

def remove (h : FastHashBase K V) (key : K) : Int × FastHashBase K V :=
  match h.find key with
  | (none, _) => (-1, h)
  | (some x, pPrev) =>
    let pNext := h.pNext x
    let unlinked : FastHashBase K V :=
      match pPrev with
      | none => { h with lookuptable := Function.update h.lookuptable (h.hashIndex key) pNext }
      | some prev =>
        { h with itemnodes := Function.update h.itemnodes prev { h.itemnodes prev with pNext := pNext } }
    let indexed := unlinked.updateIndexWithRemove x
    (1, { indexed with
      itemnodes := Function.update indexed.itemnodes x
        { indexed.itemnodes x with pNext := indexed.freelist }
      freelist := some x
      size := indexed.size - 1 })

def lookup (h : FastHashBase K V) (key : K) : Option V :=
  (h.find key).1.bind fun x => (h.itemAt (h.itemnodes x).index).map Item.value

/-- The entry, and the table with its index rebuilt if that was needed. -/
def lookupByIndex (h : FastHashBase K V) (index : Nat) : Option (Item K V) × FastHashBase K V :=
  if index ≥ h.size ∨ h.indexlist.isNone then (none, h)
  else
    let h := if h.fIndexValid then h else h.reIndex
    if h.fIndexValid then
      let indexadjusted := Int32.ofNat ((h.indexStart + index) % h.fsize)
      let itemindex := h.indexlist.bind fun list => (element indexadjusted).map list
      (itemindex.bind h.itemAt, h)
    else (none, h)

def lookupValueByIndex (h : FastHashBase K V) (index : Nat) : Option V × FastHashBase K V :=
  let found := h.lookupByIndex index
  (found.1.map Item.value, found.2)

/-- `Init`, on arrays of arbitrary contents. -/
def init (fsize tsize : Nat) (nodes : Nat → Option (Item K V)) (itemnodes : Nat → ItemNode)
    (lookuptable : Nat → Option Nat) (indexlist : Option (Nat → Int32)) : FastHashBase K V :=
  reset
    { fsize, tsize, nodes, itemnodes
      freelist := none
      lookuptable, indexlist
      fIndexValid := indexlist.isSome
      indexStart := 0
      size := 0 }

/-- `FastHash<K, V, FSIZE, TSIZE>()`: the arrays are members, so none of them is NULL. -/
def new (fsize tsize : Nat) : FastHashBase K V :=
  reset
    { fsize, tsize
      nodes := fun _ => none
      itemnodes := fun _ => ⟨0, none⟩
      freelist := none
      lookuptable := fun _ => none
      indexlist := some fun _ => 0
      fIndexValid := true
      indexStart := 0
      size := 0 }

end FastHashBase

end NatTester.Source
