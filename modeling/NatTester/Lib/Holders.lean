import Mathlib.Data.List.Count

/-!
# Who holds a resource

A program holds resources in slots, each of which takes one or none, and as loose
references in no slot. A `Balance` says that a piece of code accounts for the
resources it turns over: how much of each is in use has changed by what the code
held before and holds now. The `Books` of a program are right when what is in use
is what was in use without it and what it holds; they are kept slot by slot.
-/
namespace NatTester.Lib

variable {ρ : Type} [DecidableEq ρ] {slots : List (Option ρ)} {loose : List ρ} {i : Nat} {old new : Option ρ} {q : ρ}

/-- The holder that a slot with this content is. -/
def once (held : Option ρ) (r : ρ) : Nat := if held = some r then 1 else 0

def holders (slots : List (Option ρ)) (loose : List ρ) (r : ρ) : Nat := slots.count (some r) + loose.count r

@[simp] theorem once_none (r : ρ) : once none r = 0 := rfl

@[simp] theorem once_self (r : ρ) : once (some r) r = 1 := if_pos rfl

theorem holders_set (h : slots[i]? = some old) (new : Option ρ) (loose : List ρ) (r : ρ) :
    holders (slots.set i new) loose r + once old r = holders slots loose r + once new r := by
  obtain ⟨hlt, hold⟩ := List.getElem?_eq_some_iff.mp h
  have hcount := List.count_set (a := new) (b := some r) hlt
  have hmem : slots[i] = some r → 0 < slots.count (some r) := fun heq =>
    List.count_pos_iff.mpr (heq ▸ List.getElem_mem hlt)
  rw [hold] at hcount hmem
  unfold holders once
  rw [hcount]
  by_cases hsome : old = some r
  · have hpos := hmem hsome
    simp only [hsome, beq_self_eq_true, if_true, beq_iff_eq]
    omega
  · simp only [beq_iff_eq, if_neg hsome]
    omega

theorem holders_append (slots : List (Option ρ)) (new : Option ρ) (loose : List ρ) (r : ρ) :
    holders (slots ++ [new]) loose r = holders slots loose r + once new r := by
  unfold holders once
  rw [List.count_append, List.count_singleton]
  simp only [beq_iff_eq]
  omega

theorem holders_cons (slots : List (Option ρ)) (q : ρ) (loose : List ρ) (r : ρ) :
    holders slots (q :: loose) r = holders slots loose r + once (some q) r := by
  unfold holders once
  rw [List.count_cons]
  simp only [beq_iff_eq, Option.some.injEq]
  omega

theorem holders_erase (slots : List (Option ρ)) (h : q ∈ loose) (r : ρ) :
    holders slots (loose.erase q) r + once (some q) r = holders slots loose r := by
  have hperm := (List.perm_cons_erase h).count_eq r
  rw [List.count_cons] at hperm
  unfold holders once
  rw [hperm]
  simp only [beq_iff_eq, Option.some.injEq]
  omega

/-- A slot that holds a resource is one of its holders. -/
theorem once_le_holders (h : slots[i]? = some old) (loose : List ρ) (r : ρ) : once old r ≤ holders slots loose r := by
  have hset := holders_set h none loose r
  rw [once_none] at hset
  omega

theorem mem_le_holders (slots : List (Option ρ)) (h : q ∈ loose) : 1 ≤ holders slots loose q := by
  have herase := holders_erase slots h q
  rw [once_self] at herase
  omega

/-- Nobody holds anything. -/
theorem holders_zero (hslots : ∀ slot ∈ slots, slot = none) (r : ρ) : holders slots [] r = 0 := by
  have hcount : slots.count (some r) = 0 := List.count_eq_zero.mpr fun hmem => by cases hslots _ hmem
  rw [holders, hcount, List.count_nil]

/-! ## Balances -/

/-- Code that held `held` and now holds `holds` has turned the numbers in use into those after it. -/
def Balance (held holds : Option ρ) (before after : ρ → Int) : Prop :=
  ∀ r, after r + once held r = before r + once holds r

section Balance
variable {held holds keeps : Option ρ} {f g h : ρ → Int}

theorem Balance.refl (held : Option ρ) (f : ρ → Int) : Balance held held f f := fun _ => rfl

theorem Balance.trans (hfirst : Balance held holds f g) (hsecond : Balance holds keeps g h) : Balance held keeps f h := by
  intro r
  have hf := hfirst r
  have hg := hsecond r
  omega

/-- Something new is taken before the old is given back. -/
theorem Balance.exchange (hfirst : Balance none holds f g) (hsecond : Balance held none g h) : Balance held holds f h := by
  intro r
  have hf := hfirst r
  have hg := hsecond r
  rw [once_none] at hf hg
  omega

/-- What else the code holds makes no difference. -/
theorem Balance.frame (hnone : Balance none none f g) (held : Option ρ) : Balance held held f g := by
  intro r
  have hf := hnone r
  rw [once_none] at hf
  omega

end Balance

/-! ## Books -/

/-- What is in use is what was in use without the program, and what the program holds. -/
def Books (base inUse : ρ → Int) (slots : List (Option ρ)) (loose : List ρ) : Prop :=
  ∀ r, inUse r = base r + holders slots loose r

section Books
variable {base f g : ρ → Int}

theorem Books.start (base : ρ → Int) : Books base base [] [] := by
  intro r
  change base r = base r + ((0 : Nat) : Int)
  omega

/-- Code that works on no slot. -/
theorem Books.keep (hbooks : Books base f slots loose) (hbalance : Balance none none f g) : Books base g slots loose := by
  intro r
  have hbefore := hbooks r
  have hturned := hbalance r
  rw [once_none] at hturned
  omega

/-- Code that works on one slot. -/
theorem Books.change (hbooks : Books base f slots loose) (hslot : slots[i]? = some old) (hbalance : Balance old new f g) :
    Books base g (slots.set i new) loose := by
  intro r
  have hset := holders_set hslot new loose r
  have hbefore := hbooks r
  have hturned := hbalance r
  omega

/-- A new slot. -/
theorem Books.append (hbooks : Books base f slots loose) (hbalance : Balance none new f g) :
    Books base g (slots ++ [new]) loose := by
  intro r
  have happend := holders_append slots new loose r
  have hbefore := hbooks r
  have hturned := hbalance r
  rw [once_none] at hturned
  omega

/-- The program takes a reference. -/
theorem Books.take (hbooks : Books base f slots loose) (hbalance : Balance none (some q) f g) :
    Books base g slots (q :: loose) := by
  intro r
  have hcons := holders_cons slots q loose r
  have hbefore := hbooks r
  have hturned := hbalance r
  rw [once_none] at hturned
  omega

/-- The program gives a reference up. -/
theorem Books.give (hbooks : Books base f slots loose) (hmem : q ∈ loose) (hbalance : Balance (some q) none f g) :
    Books base g slots (loose.erase q) := by
  intro r
  have herase := holders_erase slots hmem r
  have hbefore := hbooks r
  have hturned := hbalance r
  rw [once_none] at hturned
  omega

/-- A reference of the program goes into a slot, whose content is given back. -/
theorem Books.put (hbooks : Books base f slots loose) (hslot : slots[i]? = some old) (hmem : q ∈ loose)
    (hbalance : Balance old none f g) : Books base g (slots.set i (some q)) (loose.erase q) := by
  intro r
  have hset := holders_set hslot (some q) (loose.erase q) r
  have herase := holders_erase slots hmem r
  have hbefore := hbooks r
  have hturned := hbalance r
  rw [once_none] at hturned
  omega

/-- The content of a slot becomes a reference of the program. -/
theorem Books.pull (hbooks : Books base f slots loose) (hslot : slots[i]? = some old) :
    Books base f (slots.set i none) (old.toList ++ loose) := by
  intro r
  have hset := holders_set hslot none loose r
  have hbefore := hbooks r
  rw [once_none] at hset
  cases old with
  | none =>
    rw [once_none] at hset
    change f r = base r + holders (slots.set i none) loose r
    omega
  | some q =>
    have hcons := holders_cons (slots.set i none) q loose r
    change f r = base r + holders (slots.set i none) (q :: loose) r
    omega

/-- A program that holds nothing has left what was in use without it. -/
theorem Books.settled (hbooks : Books base f slots []) (hslots : ∀ slot ∈ slots, slot = none) (r : ρ) : f r = base r := by
  have hnone := holders_zero hslots r
  have hbefore := hbooks r
  omega

end Books

end NatTester.Lib
