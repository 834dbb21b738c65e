import Mathlib.Data.List.Basic
import Mathlib.Data.List.Nodup
import Mathlib.Logic.Function.Basic
import Mathlib.Tactic.Common

/-!
# Batches of events, delivered one by one

A batch brings at most one event for each key, once nothing is left of the batch
before it. Its events are delivered one by one, or dropped with their keys.
Along a log of such steps no event is lost, none is delivered twice, and none is
delivered that the last batch did not bring.
-/
namespace NatTester.Lib.Batches

variable {κ ν : Type} [DecidableEq κ]

inductive Step (κ ν : Type)
  | batch (events : κ → Option ν)
  | deliver (k : κ) (v : ν)
  | drop (k : κ)

/-- The steps of the log lead from the waiting events `f` to the waiting events `g`. -/
def Follows (f : κ → Option ν) : List (Step κ ν) → (κ → Option ν) → Prop
  | [], g => f = g
  | .batch events :: log, g => (∀ k, f k = none) ∧ Follows events log g
  | .deliver k v :: log, g => f k = some v ∧ Follows (Function.update f k none) log g
  | .drop k :: log, g => Follows (Function.update f k none) log g

/-- The keys of the delivered events. -/
def delivered (log : List (Step κ ν)) : List κ :=
  log.filterMap fun
    | .batch _ => none
    | .deliver k _ => some k
    | .drop _ => none

/-- The log brings no batch. -/
def Within (log : List (Step κ ν)) : Prop := ∀ events, .batch events ∉ log

variable {f g h : κ → Option ν} {log : List (Step κ ν)}

theorem Follows.append {more : List (Step κ ν)} (hfg : Follows f log g) (hgh : Follows g more h) :
    Follows f (log ++ more) h := by
  induction log generalizing f with
  | nil =>
    obtain rfl : f = g := hfg
    exact hgh
  | cons step log ih =>
    cases step with
    | batch events => exact ⟨hfg.1, ih hfg.2⟩
    | deliver k v => exact ⟨hfg.1, ih hfg.2⟩
    | drop k => exact ih hfg

theorem Follows.split {more : List (Step κ ν)} (hfh : Follows f (log ++ more) h) :
    ∃ g, Follows f log g ∧ Follows g more h := by
  induction log generalizing f with
  | nil => exact ⟨f, rfl, hfh⟩
  | cons step log ih =>
    cases step with
    | batch events =>
      obtain ⟨g, hfg, hgh⟩ := ih hfh.2
      exact ⟨g, ⟨hfh.1, hfg⟩, hgh⟩
    | deliver k v =>
      obtain ⟨g, hfg, hgh⟩ := ih hfh.2
      exact ⟨g, ⟨hfh.1, hfg⟩, hgh⟩
    | drop k => exact ih hfh

/-! ## Between two batches -/

/-- A delivered event was waiting, and its key was not dropped before. -/
theorem Follows.waiting (hfg : Follows f log g) (hwithin : Within log) {earlier later : List (Step κ ν)} {k : κ} {v : ν}
    (hlog : log = earlier ++ .deliver k v :: later) : f k = some v ∧ .drop k ∉ earlier := by
  induction earlier generalizing f log with
  | nil =>
    subst hlog
    exact ⟨hfg.1, List.not_mem_nil⟩
  | cons step earlier ih =>
    subst hlog
    have hrest : Within (earlier ++ .deliver k v :: later) := fun events hmem =>
      hwithin events (List.mem_cons_of_mem step hmem)
    cases step with
    | batch events => exact absurd List.mem_cons_self (hwithin events)
    | deliver j w =>
      obtain ⟨hwaits, hnot⟩ := ih hfg.2 hrest rfl
      have hne : k ≠ j := by
        rintro rfl
        simp at hwaits
      rw [Function.update_of_ne hne] at hwaits
      exact ⟨hwaits, by simpa using hnot⟩
    | drop j =>
      have hnext : Follows (Function.update f j none) (earlier ++ .deliver k v :: later) g := hfg
      obtain ⟨hwaits, hnot⟩ := ih hnext hrest rfl
      have hne : k ≠ j := by
        rintro rfl
        simp at hwaits
      rw [Function.update_of_ne hne] at hwaits
      exact ⟨hwaits, by simpa [hne] using hnot⟩

omit [DecidableEq κ] in
theorem mem_delivered {k : κ} : k ∈ delivered log ↔ ∃ v, .deliver k v ∈ log := by
  rw [delivered, List.mem_filterMap]
  constructor
  · intro hmem
    obtain ⟨step, hstep, hkey⟩ := hmem
    cases step <;> cases hkey
    exact ⟨_, hstep⟩
  · intro hmem
    obtain ⟨v, hv⟩ := hmem
    exact ⟨.deliver k v, hv, rfl⟩

/-- What is delivered waits no more. -/
theorem Follows.delivered_nodup (hfg : Follows f log g) (hwithin : Within log) : (delivered log).Nodup := by
  induction log generalizing f with
  | nil => exact List.nodup_nil
  | cons step log ih =>
    have hrest : Within log := fun events hmem => hwithin events (List.mem_cons_of_mem step hmem)
    cases step with
    | batch events => exact absurd List.mem_cons_self (hwithin events)
    | deliver k v =>
      have hnot : k ∉ delivered log := by
        intro hmem
        obtain ⟨w, hw⟩ := mem_delivered.mp hmem
        obtain ⟨earlier, later, hlog⟩ := List.append_of_mem hw
        have hwaits := (hfg.2.waiting hrest hlog).1
        simp at hwaits
      exact List.nodup_cons.mpr ⟨hnot, ih hfg.2 hrest⟩
    | drop k => exact ih hfg hrest

/-- A waiting event still waits, or was dropped or delivered. -/
theorem Follows.accounted (hfg : Follows f log g) (hwithin : Within log) {k : κ} {v : ν} (hk : f k = some v) :
    g k = some v ∨ .drop k ∈ log ∨ k ∈ delivered log := by
  induction log generalizing f with
  | nil =>
    obtain rfl : f = g := hfg
    exact Or.inl hk
  | cons step log ih =>
    have hrest : Within log := fun events hmem => hwithin events (List.mem_cons_of_mem step hmem)
    -- a step for another key leaves the event waiting
    have hlater : ∀ j, k ≠ j → Follows (Function.update f j none) log g →
        g k = some v ∨ .drop k ∈ step :: log ∨ k ∈ delivered (step :: log) := by
      intro j hne hnext
      rcases ih hnext hrest (by rw [Function.update_of_ne hne, hk]) with hwaits | hdrop | hdeliver
      · exact Or.inl hwaits
      · exact Or.inr (Or.inl (List.mem_cons_of_mem _ hdrop))
      · obtain ⟨u, hu⟩ := mem_delivered.mp hdeliver
        exact Or.inr (Or.inr (mem_delivered.mpr ⟨u, List.mem_cons_of_mem _ hu⟩))
    cases step with
    | batch events => exact absurd List.mem_cons_self (hwithin events)
    | deliver j w =>
      by_cases hne : k = j
      · subst hne
        exact Or.inr (Or.inr (mem_delivered.mpr ⟨w, List.mem_cons_self⟩))
      · exact hlater j hne hfg.2
    | drop j =>
      by_cases hne : k = j
      · subst hne
        exact Or.inr (Or.inl List.mem_cons_self)
      · exact hlater j hne hfg

/-! ## Whole logs -/

/-- Nothing is delivered before the first batch. After a batch, its events are delivered at most once each and unless
their keys were dropped before; by the next batch all that were not dropped have been delivered once. -/
structure Lossless (log : List (Step κ ν)) : Prop where
  before : ∀ during rest, log = during ++ rest → Within during → delivered during = []
  once : ∀ before events during rest, log = before ++ .batch events :: (during ++ rest) → Within during →
    (delivered during).Nodup
  brought : ∀ before events during rest, log = before ++ .batch events :: (during ++ rest) → Within during →
    ∀ earlier k v later, during = earlier ++ .deliver k v :: later → events k = some v ∧ .drop k ∉ earlier
  complete : ∀ before events during next rest, log = before ++ .batch events :: (during ++ .batch next :: rest) →
    Within during → ∀ k v, events k = some v → .drop k ∉ during → (delivered during).count k = 1

theorem Follows.lossless (hlog : Follows (fun _ => none) log g) : Lossless log where
  before := by
    rintro during rest rfl hwithin
    obtain ⟨_, hduring, -⟩ := hlog.split
    apply List.eq_nil_iff_forall_not_mem.mpr
    intro k hk
    obtain ⟨v, hv⟩ := mem_delivered.mp hk
    obtain ⟨earlier, later, hsplit⟩ := List.append_of_mem hv
    cases (hduring.waiting hwithin hsplit).1
  once := by
    rintro before events during rest rfl hwithin
    obtain ⟨_, -, -, hafter⟩ := hlog.split
    obtain ⟨_, hduring, -⟩ := hafter.split
    exact hduring.delivered_nodup hwithin
  brought := by
    rintro before events during rest rfl hwithin earlier k v later hsplit
    obtain ⟨_, -, -, hafter⟩ := hlog.split
    obtain ⟨_, hduring, -⟩ := hafter.split
    exact hduring.waiting hwithin hsplit
  complete := by
    rintro before events during next rest rfl hwithin k v hk hdrop
    obtain ⟨_, -, -, hafter⟩ := hlog.split
    obtain ⟨left, hduring, hnone, -⟩ := hafter.split
    have hmem : k ∈ delivered during := by
      rcases hduring.accounted hwithin hk with hwaits | hdropped | hdelivered
      · rw [hnone k] at hwaits
        cases hwaits
      · exact absurd hdropped hdrop
      · exact hdelivered
    exact List.count_eq_one_of_mem (hduring.delivered_nodup hwithin) hmem

/-! ## Batch by batch -/

/-- The batches of the log. -/
def batches : List (Step κ ν) → List (κ → Option ν)
  | [] => []
  | .batch events :: log => events :: batches log
  | .deliver _ _ :: log => batches log
  | .drop _ :: log => batches log

omit [DecidableEq κ] in
theorem batches_append (log more : List (Step κ ν)) : batches (log ++ more) = batches log ++ batches more := by
  induction log with
  | nil => rfl
  | cons step log ih =>
    cases step with
    | batch events => exact congrArg (events :: ·) ih
    | deliver k v => exact ih
    | drop k => exact ih

/-- What is delivered before the first batch, between it and the second one, and so on. -/
def perBatch : List (Step κ ν) → List (List (κ × ν))
  | [] => [[]]
  | .batch _ :: log => [] :: perBatch log
  | .deliver k v :: log => (perBatch log).modifyHead ((k, v) :: ·)
  | .drop _ :: log => perBatch log

/-- The group has every event of `f` once, and no other. -/
structure Lists (group : List (κ × ν)) (f : κ → Option ν) : Prop where
  distinct : (group.map Prod.fst).Nodup
  mem : ∀ k v, (k, v) ∈ group ↔ f k = some v

omit [DecidableEq κ] in
theorem Lists.perm {group group' : List (κ × ν)} (h : Lists group f) (h' : Lists group' f) : group.Perm group' := by
  rw [List.perm_ext_iff_of_nodup (List.Nodup.of_map _ h.distinct) (List.Nodup.of_map _ h'.distinct)]
  intro event
  obtain ⟨k, v⟩ := event
  rw [h.mem, h'.mem]

theorem Lists.deliver {group : List (κ × ν)} {k : κ} {v : ν} (hk : f k = some v)
    (h : Lists group (Function.update f k none)) : Lists ((k, v) :: group) f where
  distinct := by
    rw [List.map_cons, List.nodup_cons]
    refine ⟨?_, h.distinct⟩
    intro hmem
    obtain ⟨⟨j, w⟩, hevent, hkey⟩ := List.mem_map.mp hmem
    have hwaits := (h.mem j w).mp hevent
    cases hkey
    simp at hwaits
  mem := by
    intro j w
    rw [List.mem_cons, h.mem]
    by_cases hj : j = k
    · subst hj
      simp [hk, eq_comm]
    · simp [hj]

omit [DecidableEq κ] in
theorem length_perBatch (log : List (Step κ ν)) : (perBatch log).length = (batches log).length + 1 := by
  induction log with
  | nil => rfl
  | cons step log ih =>
    cases step with
    | batch events => rw [perBatch, batches, List.length_cons, List.length_cons, ih]
    | deliver k v => rw [perBatch, batches, List.length_modifyHead, ih]
    | drop k => rw [perBatch, batches, ih]

/-- Only keys without an event are dropped. -/
def Keeps (f : κ → Option ν) : List (Step κ ν) → Prop
  | [] => True
  | .batch events :: log => Keeps events log
  | .deliver k _ :: log => Keeps (Function.update f k none) log
  | .drop k :: log => f k = none ∧ Keeps (Function.update f k none) log

theorem Keeps.append {more : List (Step κ ν)} (hfg : Follows f log g) (h : Keeps f log) (hmore : Keeps g more) :
    Keeps f (log ++ more) := by
  induction log generalizing f with
  | nil =>
    obtain rfl : f = g := hfg
    exact hmore
  | cons step log ih =>
    cases step with
    | batch events => exact ih hfg.2 h
    | deliver k v => exact ih hfg.2 h
    | drop k => exact ⟨h.1, ih hfg h.2⟩

theorem keeps_of_no_drop (f : κ → Option ν) (h : ∀ k, .drop k ∉ log) : Keeps f log := by
  induction log generalizing f with
  | nil => trivial
  | cons step log ih =>
    have hrest : ∀ k, .drop k ∉ log := fun k hmem => h k (List.mem_cons_of_mem step hmem)
    cases step with
    | batch events => exact ih events hrest
    | deliver k v => exact ih _ hrest
    | drop k => exact absurd List.mem_cons_self (h k)

/-- Where no event is dropped, all of a batch is delivered before the next one. -/
theorem Follows.perBatch (hfg : Follows f log g) (hkeeps : Keeps f log) :
    List.Forall₂ Lists (perBatch log).dropLast (f :: batches log).dropLast := by
  induction log generalizing f with
  | nil => exact .nil
  | cons step log ih =>
    have hlength := length_perBatch log
    cases step with
    | batch events =>
      obtain ⟨hnone, hnext⟩ := hfg
      obtain ⟨group, groups, hgroups⟩ := List.exists_cons_of_ne_nil (List.ne_nil_of_length_eq_add_one hlength)
      have hih := ih hnext hkeeps
      rw [Batches.perBatch, batches, hgroups, List.dropLast_cons_cons, ← hgroups, List.dropLast_cons_cons]
      exact .cons ⟨List.nodup_nil, fun k v => by simp [hnone k]⟩ hih
    | deliver k v =>
      obtain ⟨hwaits, hnext⟩ := hfg
      have hih := ih hnext hkeeps
      rw [Batches.perBatch, batches]
      cases hgroups : Batches.perBatch log with
      | nil => simp [hgroups] at hlength
      | cons group groups =>
        rw [hgroups] at hih hlength
        cases hbatches : batches log with
        | nil =>
          obtain rfl : groups = [] := by simpa [hbatches] using hlength
          exact .nil
        | cons events rest =>
          obtain ⟨second, groups, rfl⟩ : ∃ second rest, groups = second :: rest := by
            cases groups with
            | nil => simp [hbatches] at hlength
            | cons second groups => exact ⟨second, groups, rfl⟩
          rw [hbatches, List.dropLast_cons_cons, List.dropLast_cons_cons] at hih
          rw [List.modifyHead_cons, List.dropLast_cons_cons, List.dropLast_cons_cons]
          cases hih with
          | cons hhead htail => exact .cons (hhead.deliver hwaits) htail
    | drop k =>
      have hnext : Follows (Function.update f k none) log g := hfg
      rw [Batches.perBatch, batches]
      have hsame : Function.update f k none = f := by rw [← hkeeps.1, Function.update_eq_self]
      rw [hsame] at hnext
      exact ih hnext (hsame ▸ hkeeps.2)

/-- Two logs with the same batches deliver the same events of each, in some order. -/
theorem Follows.same {log' : List (Step κ ν)} {g' : κ → Option ν} (h : Follows f log g) (h' : Follows f log' g')
    (hkeeps : Keeps f log) (hkeeps' : Keeps f log') (hbatches : batches log = batches log') :
    List.Forall₂ List.Perm (Batches.perBatch log).dropLast (Batches.perBatch log').dropLast := by
  have hlists := h.perBatch hkeeps
  have hlists' := h'.perBatch hkeeps'
  rw [← hbatches] at hlists'
  generalize (Batches.perBatch log).dropLast = groups at hlists
  generalize (Batches.perBatch log').dropLast = groups' at hlists'
  generalize (f :: batches log).dropLast = events at hlists hlists'
  induction hlists generalizing groups' with
  | nil =>
    cases hlists'
    exact .nil
  | cons hhead _ ih =>
    cases hlists' with
    | cons hhead' htail' => exact .cons (hhead.perm hhead') (ih _ htail')

end NatTester.Lib.Batches
