import NatTester.Lib.Batches
import NatTester.Lib.Multimap

/-!
# Batches that are delivered in order

A batch arrives once nothing is left of the one before it. Its items are taken one
by one from the front, or what is left of it is discarded as a whole. Along a log of
such steps the deliveries between two batches are the first of them, in order and
without a gap. Batches of items with distinct keys are batches in the sense of
`NatTester.Lib.Batches`.
-/
namespace NatTester.Lib.Queue

variable {α : Type}

inductive Step (α : Type)
  | batch (items : List α)
  | deliver (item : α)
  | discard

/-- The steps of the log lead from the waiting items `q` to the waiting items `r`. -/
def Follows (q : List α) : List (Step α) → List α → Prop
  | [], r => q = r
  | .batch items :: log, r => q = [] ∧ Follows items log r
  | .deliver item :: log, r => ∃ rest, q = item :: rest ∧ Follows rest log r
  | .discard :: log, r => Follows [] log r

/-- The delivered items. -/
def delivered (log : List (Step α)) : List α :=
  log.filterMap fun
    | .batch _ => none
    | .deliver item => some item
    | .discard => none

/-- Items are delivered along the log, and that is all. -/
def Within (log : List (Step α)) : Prop := (∀ items, .batch items ∉ log) ∧ .discard ∉ log

variable {q r s : List α} {log more : List (Step α)}

theorem Follows.append (hqr : Follows q log r) (hrs : Follows r more s) : Follows q (log ++ more) s := by
  induction log generalizing q with
  | nil =>
    obtain rfl : q = r := hqr
    exact hrs
  | cons step log ih =>
    cases step with
    | batch items => exact ⟨hqr.1, ih hqr.2⟩
    | deliver item =>
      obtain ⟨rest, hq, hnext⟩ := hqr
      exact ⟨rest, hq, ih hnext⟩
    | discard => exact ih hqr

theorem Follows.split (hqs : Follows q (log ++ more) s) : ∃ r, Follows q log r ∧ Follows r more s := by
  induction log generalizing q with
  | nil => exact ⟨q, rfl, hqs⟩
  | cons step log ih =>
    cases step with
    | batch items =>
      obtain ⟨r, hqr, hrs⟩ := ih hqs.2
      exact ⟨r, ⟨hqs.1, hqr⟩, hrs⟩
    | deliver item =>
      obtain ⟨rest, hq, hnext⟩ := hqs
      obtain ⟨r, hqr, hrs⟩ := ih hnext
      exact ⟨r, ⟨rest, hq, hqr⟩, hrs⟩
    | discard => exact ih hqs

/-- What waits is delivered from the front. -/
theorem Follows.eq_append (hqr : Follows q log r) (hwithin : Within log) : q = delivered log ++ r := by
  induction log generalizing q with
  | nil => exact hqr
  | cons step log ih =>
    have hrest : Within log :=
      ⟨fun items hmem => hwithin.1 items (List.mem_cons_of_mem step hmem), fun hmem => hwithin.2 (List.mem_cons_of_mem step hmem)⟩
    cases step with
    | batch items => exact absurd List.mem_cons_self (hwithin.1 items)
    | deliver item =>
      obtain ⟨rest, rfl, hnext⟩ := hqr
      exact congrArg (item :: ·) (ih hnext hrest)
    | discard => exact absurd List.mem_cons_self hwithin.2

/-- Nothing is delivered before the first batch, nor from a discarded one. What is delivered of a batch are its first
items, in order, and by the next batch all of them. -/
structure InOrder (log : List (Step α)) : Prop where
  before : ∀ during rest, log = during ++ rest → Within during → delivered during = []
  discarded : ∀ before during rest, log = before ++ .discard :: (during ++ rest) → Within during → delivered during = []
  first : ∀ before items during rest, log = before ++ .batch items :: (during ++ rest) → Within during →
    delivered during <+: items
  all : ∀ before items during next rest, log = before ++ .batch items :: (during ++ .batch next :: rest) →
    Within during → delivered during = items

theorem Follows.inOrder (hlog : Follows [] log r) : InOrder log where
  before := by
    intro during rest hsplit hwithin
    subst hsplit
    obtain ⟨_, hduring, -⟩ := hlog.split
    exact (List.append_eq_nil_iff.mp (hduring.eq_append hwithin).symm).1
  discarded := by
    intro before during rest hsplit hwithin
    subst hsplit
    obtain ⟨_, -, hafter⟩ := hlog.split
    obtain ⟨_, hduring, -⟩ := Follows.split (q := []) hafter
    exact (List.append_eq_nil_iff.mp (hduring.eq_append hwithin).symm).1
  first := by
    intro before items during rest hsplit hwithin
    subst hsplit
    obtain ⟨_, -, -, hafter⟩ := hlog.split
    obtain ⟨left, hduring, -⟩ := hafter.split
    exact ⟨left, (hduring.eq_append hwithin).symm⟩
  all := by
    intro before items during next rest hsplit hwithin
    subst hsplit
    obtain ⟨_, -, -, hafter⟩ := hlog.split
    obtain ⟨left, hduring, hnone, -⟩ := hafter.split
    rw [hduring.eq_append hwithin, hnone, List.append_nil]

/-! ## Items with distinct keys -/

section Keys

variable {κ ν : Type} [DecidableEq κ] {key : α → κ} {value : α → ν} {items : List α}

/-- The values of the waiting items, by their keys. -/
def byKey (key : α → κ) (value : α → ν) (items : List α) (k : κ) : Option ν := (Multimap.find key k items).map value

def Step.byKey (key : α → κ) (value : α → ν) : Step α → List (Batches.Step κ ν)
  | .batch items => [.batch (Queue.byKey key value items)]
  | .deliver item => [.deliver (key item) (value item)]
  | .discard => []

theorem byKey_eq_some (hdistinct : (items.map key).Nodup) {k : κ} {v : ν} :
    byKey key value items k = some v ↔ ∃ item ∈ items, key item = k ∧ value item = v := by
  simp only [byKey, Option.map_eq_some_iff, Multimap.find_eq_some_iff hdistinct, and_assoc]

/-- The front item leaves, the others wait as before. -/
theorem byKey_tail {item : α} (hdistinct : ((item :: items).map key).Nodup) :
    byKey key value items = Function.update (byKey key value (item :: items)) (key item) none := by
  rw [List.map_cons, List.nodup_cons] at hdistinct
  funext k
  by_cases hk : k = key item
  · subst hk
    rw [Function.update_self, byKey, Option.map_eq_none_iff, Multimap.find_eq_none]
    intro other hother hkey
    exact hdistinct.1 (hkey ▸ List.mem_map_of_mem hother)
  · rw [Function.update_of_ne hk, byKey, byKey, Multimap.find, Multimap.find, List.find?_cons_of_neg]
    simpa [eq_comm] using hk

theorem byKey_perm {other : List α} (hdistinct : (items.map key).Nodup) (hperm : items.Perm other) :
    byKey key value items = byKey key value other := by
  have hother : (other.map key).Nodup := (hperm.map key).nodup_iff.mp hdistinct
  funext k
  apply Option.ext
  intro v
  rw [byKey_eq_some hdistinct, byKey_eq_some hother]
  exact exists_congr fun item => and_congr_left' hperm.mem_iff

theorem byKey_cons (key : α → κ) (value : α → ν) (item : α) (items : List α) :
    byKey key value (item :: items) = Function.update (byKey key value items) (key item) (some (value item)) := by
  funext k
  by_cases hk : k = key item
  · subst hk
    simp [byKey, Multimap.find]
  · rw [Function.update_of_ne hk, byKey, byKey, Multimap.find, Multimap.find, List.find?_cons_of_neg]
    simpa [eq_comm] using hk

/-- Items that are made for their keys. -/
theorem byKey_map {keys : List κ} {make : κ → α} (value : α → ν) (hmake : ∀ k ∈ keys, key (make k) = k) (k : κ) :
    byKey key value (keys.map make) k = if k ∈ keys then some (value (make k)) else none := by
  induction keys with
  | nil => rfl
  | cons first keys ih =>
    have hrest := ih fun j hj => hmake j (List.mem_cons_of_mem first hj)
    rw [List.map_cons, byKey_cons, hmake first List.mem_cons_self]
    by_cases hk : k = first
    · subst hk
      rw [Function.update_self, if_pos List.mem_cons_self]
    · rw [Function.update_of_ne hk, hrest]
      simp [hk]

/-- Another item is put in the place of one with the same key. -/
theorem byKey_set (value : α → ν) {i : Nat} {item : α} (new : α) (hdistinct : (items.map key).Nodup) (hi : items[i]? = some item)
    (hkey : key new = key item) :
    byKey key value (items.set i new) = Function.update (byKey key value items) (key item) (some (value new)) := by
  obtain ⟨hlt, rfl⟩ := List.getElem?_eq_some_iff.mp hi
  have hkeys : ((items.set i new).map key).Nodup := by
    rwa [List.map_set, hkey, ← List.getElem_map key (h := by rwa [List.length_map]), List.set_getElem_self]
  have hold : items.Perm (items[i] :: (items.take i ++ items.drop (i + 1))) := by
    conv_lhs => rw [← List.take_append_drop i items, List.drop_eq_getElem_cons hlt]
    exact List.perm_middle
  have hnew : (items.set i new).Perm (new :: (items.take i ++ items.drop (i + 1))) := by
    rw [List.set_eq_take_append_cons_drop, if_pos hlt]
    exact List.perm_middle
  rw [byKey_perm hkeys hnew, byKey_perm hdistinct hold, byKey_cons, byKey_cons, hkey, Function.update_idem]

/-- Batches of distinct keys, none of them discarded, are delivered as the batches of `NatTester.Lib.Batches` are. -/
theorem Follows.byKey (value : α → ν) (hqr : Follows q log r) (hdistinct : (q.map key).Nodup)
    (hbatches : ∀ items, .batch items ∈ log → (items.map key).Nodup) (hkeeps : .discard ∉ log) :
    Batches.Follows (Queue.byKey key value q) (log.flatMap (Step.byKey key value)) (Queue.byKey key value r) := by
  induction log generalizing q with
  | nil => exact congrArg (Queue.byKey key value) hqr
  | cons step log ih =>
    have hrest : ∀ items, .batch items ∈ log → (items.map key).Nodup := fun items hmem =>
      hbatches items (List.mem_cons_of_mem step hmem)
    have hkeepsRest : .discard ∉ log := fun hmem => hkeeps (List.mem_cons_of_mem step hmem)
    cases step with
    | batch items =>
      obtain ⟨rfl, hnext⟩ := hqr
      exact ⟨fun _ => rfl, ih hnext (hbatches items List.mem_cons_self) hrest hkeepsRest⟩
    | deliver item =>
      obtain ⟨rest, rfl, hnext⟩ := hqr
      have htail : (rest.map key).Nodup := (List.nodup_cons.mp hdistinct).2
      have hih := ih hnext htail hrest hkeepsRest
      rw [byKey_tail hdistinct] at hih
      exact ⟨(byKey_eq_some hdistinct).mpr ⟨item, List.mem_cons_self, rfl, rfl⟩, hih⟩
    | discard => exact absurd List.mem_cons_self hkeeps

end Keys

end NatTester.Lib.Queue
