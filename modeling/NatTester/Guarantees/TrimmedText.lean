import NatTester.Source.CommandLine

/-!
# Trim and host names of white space

`Trim` cuts a text down only if its loop has found something to keep. A text of
nothing but white space stays as it is, and as a host name it gets past the check for
the empty name and is looked up.
-/
namespace NatTester.Guarantees
open NatTester.Lib NatTester.Source

/-- `Trim` leaves the one stripped part of the text, and nothing to do for a second `Trim`; a host name of white space is
refused without a lookup. -/
structure TrimsAround (str : String) : Prop where
  strips : ∀ u, IsStripped isWhitespace str.toList u ↔ u = (trim str).toList
  idempotent : trim (trim str) = trim str
  rejects : (∀ ch ∈ str.toList, isWhitespace ch = true) → ∀ host family,
    resolveHostNameLookups host str family = (.error E_INVALIDARG, [])

variable {str : String}

/-- The whole text is kept where it is blank, and what remains of it where it is not. -/
theorem trim_of_blank (h : str.length < 0x80000000) (hblank : ∀ ch ∈ str.toList, isWhitespace ch = true) :
    trim str = str := by
  rw [trim_eq h, if_pos (strip_of_all hblank)]

theorem trim_of_text (h : str.length < 0x80000000) (htext : ¬ ∀ ch ∈ str.toList, isWhitespace ch = true) :
    trim str = String.ofList (strip isWhitespace str.toList) := by
  rw [trim_eq h, if_neg fun hnil => htext (strip_eq_nil_iff.mp hnil)]

theorem trim_idempotent (h : str.length < 0x80000000) : trim (trim str) = trim str := by
  by_cases hblank : ∀ ch ∈ str.toList, isWhitespace ch = true
  · rw [trim_of_blank h hblank, trim_of_blank h hblank]
  · have hne : strip isWhitespace str.toList ≠ [] := fun hnil => hblank (strip_eq_nil_iff.mp hnil)
    have hlist : (trim str).toList = strip isWhitespace str.toList := by
      rw [trim_of_text h hblank, String.toList_ofList]
    have hshort : (trim str).length ≤ str.length := by
      obtain ⟨a, b, hs, -, -⟩ := (strip_isStripped isWhitespace str.toList).between
      have htotal := congrArg List.length hs
      rw [List.length_append, List.length_append, String.length_toList] at htotal
      rw [← String.length_toList, hlist]
      omega
    rw [trim_eq (by omega), hlist, strip_strip, if_neg hne, ← hlist, String.ofList_toList]

/-- For texts as long as an `int` counts: `Trim` does what it is for exactly on the empty text and on those that hold
something other than white space. -/
theorem trims_around_iff (h : str.length < 0x80000000) :
    TrimsAround str ↔ str = "" ∨ ∃ ch ∈ str.toList, isWhitespace ch = false := by
  constructor
  · intro htrims
    by_contra hnot
    obtain ⟨hne, hnone⟩ := not_or.mp hnot
    have hblank : ∀ ch ∈ str.toList, isWhitespace ch = true := by
      intro ch hch
      by_contra hfalse
      exact hnone ⟨ch, hch, Bool.eq_false_iff.mpr hfalse⟩
    have hempty := (htrims.strips []).mp (IsStripped.iff.mpr (strip_of_all hblank).symm)
    rw [trim_of_blank h hblank] at hempty
    exact hne (String.toList_eq_nil_iff.mp hempty.symm)
  · intro htext
    refine ⟨?_, trim_idempotent h, ?_⟩
    · intro u
      rw [IsStripped.iff]
      rcases htext with rfl | ⟨ch, hch, hkept⟩
      · rfl
      · have hnot : ¬ ∀ other ∈ str.toList, isWhitespace other = true := by
          intro hblank
          rw [hblank ch hch] at hkept
          cases hkept
        rw [trim_of_text h hnot, String.toList_ofList]
    · intro hblank host family
      rcases htext with rfl | ⟨ch, hch, hkept⟩
      · rfl
      · rw [hblank ch hch] at hkept
        cases hkept

/-- A host name between blanks. -/
theorem trims_around_iff_host : TrimsAround " stun.l \t" :=
  (trims_around_iff (by decide)).mpr (.inr ⟨'s', by decide, by decide⟩)

/-- Three blanks stay, and are looked up. -/
theorem trims_blanks :
    ¬ TrimsAround "   " ∧
      (resolveHostNameLookups ⟨fun _ _ => .error 8, .ok [], fun _ _ => none⟩ "   " .inet).2 = ["   "] := by
  refine ⟨?_, by decide⟩
  intro htrims
  have hempty := (htrims.strips []).mp (IsStripped.iff.mpr (strip_of_all (List.all_eq_true.mp rfl)).symm)
  exact absurd hempty (by decide)

end NatTester.Guarantees
