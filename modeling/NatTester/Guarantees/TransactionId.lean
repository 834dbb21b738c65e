import NatTester.Wire.Builder

/-!
# The random transaction id and the memory it is drawn into

`AddRandomTransactionId` declares its id without a value, puts the cookie in front
and draws the bytes 4 to 11. The loop stops four bytes short of the id, so the bytes
12 to 15 of two runs with the same draws agree only if the two locals do.
-/
namespace NatTester.Guarantees
open NatTester.Lib NatTester.Source NatTester.Wire CStunMessageBuilder

/-- A run that finds `memory` in its local and the results `rand` of `rand()`. -/
def randomIdRun [Platform] (rand : Nat → Nat) (memory : StunTransactionId) (b : CStunMessageBuilder) :
    Except HRESULT StunTransactionId × CStunMessageBuilder :=
  Proc.exec (addRandomTransactionId ⟨rand, memory⟩) b

/-- The octets of `n` draws, from the one numbered `first`. -/
def draws (rand : Nat → Nat) (first n : Nat) : Bytes :=
  (List.range n).map fun k => UInt8.ofNat (rand (first + k) % 256)

/-- What the comment promises: the cookie, followed by 12 bytes of the real transaction id. -/
def FullyDrawn (rand : Nat → Nat) (transid : StunTransactionId) : Prop :=
  transid.id = be32 STUN_COOKIE ++ draws rand 0 12

/-- Two runs return the same id, or the same error, leave the same builder behind, and
what they leave there is fully drawn. -/
structure SameDrawnId (rand : Nat → Nat) (first second : Except HRESULT StunTransactionId × CStunMessageBuilder) :
    Prop where
  same : first = second
  drawn : FullyDrawn rand first.2.transactionid

theorem draws_append (rand : Nat → Nat) (first m n : Nat) :
    draws rand first (m + n) = draws rand first m ++ draws rand (first + m) n := by
  simp only [draws, List.range_add, List.map_append, List.map_map, Nat.add_assoc]
  rfl

/-- The id of a run: the cookie, eight draws, and four bytes that were there before. -/
theorem transactionId_eq (rand : Nat → Nat) (memory : StunTransactionId) :
    (RandomSource.transactionId ⟨rand, memory⟩).id = be32 STUN_COOKIE ++ draws rand 0 8 ++ memory.id.drop 12 := by
  rw [transactionId_id]
  simp only [draws, Nat.zero_add]

theorem fullyDrawn_iff (rand : Nat → Nat) (memory : StunTransactionId) :
    FullyDrawn rand (RandomSource.transactionId ⟨rand, memory⟩) ↔ memory.id.drop 12 = draws rand 8 4 := by
  have hsplit : draws rand 0 12 = draws rand 0 8 ++ draws rand 8 4 := draws_append rand 0 8 4
  rw [FullyDrawn, transactionId_eq, hsplit, ← List.append_assoc]
  exact List.append_right_inj _

theorem transactionId_eq_iff (rand : Nat → Nat) (m₁ m₂ : StunTransactionId) :
    RandomSource.transactionId ⟨rand, m₁⟩ = RandomSource.transactionId ⟨rand, m₂⟩ ↔
      m₁.id.drop 12 = m₂.id.drop 12 := by
  have hext : ∀ a b : StunTransactionId, a = b ↔ a.id = b.id := by
    intro a b
    cases a
    cases b
    exact StunTransactionId.mk.injEq .. ▸ Iff.rfl
  rw [hext, transactionId_eq, transactionId_eq]
  exact List.append_right_inj _

section Runs
variable [Platform]

/-- The run leaves its id in the builder, whether or not the message has room for it. -/
theorem randomIdRun_eq (rand : Nat → Nat) (memory : StunTransactionId) (b : CStunMessageBuilder) :
    randomIdRun rand memory b =
      ((Proc.exec (addTransactionId (RandomSource.transactionId ⟨rand, memory⟩)) b).1.map fun _ =>
          RandomSource.transactionId ⟨rand, memory⟩,
        (Proc.exec (addTransactionId (RandomSource.transactionId ⟨rand, memory⟩)) b).2) := by
  rw [randomIdRun, addRandomTransactionId, Proc.exec_bind]
  rcases Proc.exec (addTransactionId (RandomSource.transactionId ⟨rand, memory⟩)) b with ⟨_ | _, _⟩ <;> rfl

theorem addTransactionId_transactionid (transid : StunTransactionId) (b : CStunMessageBuilder) :
    (Proc.exec (addTransactionId transid) b).2.transactionid = transid := by
  rw [addTransactionId, Proc.exec_bind_ok (Proc.exec_modify ..)]
  rfl

theorem randomIdRun_transactionid (rand : Nat → Nat) (memory : StunTransactionId) (b : CStunMessageBuilder) :
    (randomIdRun rand memory b).2.transactionid = RandomSource.transactionId ⟨rand, memory⟩ := by
  rw [randomIdRun_eq]
  exact addTransactionId_transactionid ..

/-- Two runs are alike when the locals they find agree where the loop does not write. -/
theorem randomIdRun_eq_iff (rand : Nat → Nat) (m₁ m₂ : StunTransactionId) (b : CStunMessageBuilder) :
    randomIdRun rand m₁ b = randomIdRun rand m₂ b ↔ m₁.id.drop 12 = m₂.id.drop 12 := by
  rw [← transactionId_eq_iff rand m₁ m₂]
  constructor
  · intro h
    rw [← randomIdRun_transactionid rand m₁ b, h, randomIdRun_transactionid]
  · intro h
    rw [randomIdRun_eq, randomIdRun_eq, h]

/-- For every builder and all draws: two runs give the same fully drawn id exactly when
both locals hold the four bytes the loop should still have drawn, and the same id at all
exactly when they hold the same four bytes. A builder that holds `message` gets the id at
the place it stands at. -/
theorem random_id_same_iff (rand : Nat → Nat) (m₁ m₂ : StunTransactionId) (b : CStunMessageBuilder) :
    (SameDrawnId rand (randomIdRun rand m₁ b) (randomIdRun rand m₂ b) ↔
      m₁.id.drop 12 = draws rand 8 4 ∧ m₂.id.drop 12 = draws rand 8 4) ∧
    (randomIdRun rand m₁ b = randomIdRun rand m₂ b ↔ m₁.id.drop 12 = m₂.id.drop 12) ∧
    ∀ cap legacy transid message pos, BuiltAt cap legacy transid message pos b →
      ∃ id after, randomIdRun rand m₁ b = (.ok id, after) ∧
        id.id = be32 STUN_COOKIE ++ draws rand 0 8 ++ m₁.id.drop 12 ∧
        BuiltAt cap legacy id (splice pos id.id message) (pos + 16) after := by
  refine ⟨?_, randomIdRun_eq_iff rand m₁ m₂ b, ?_⟩
  · have hsame := randomIdRun_eq_iff rand m₁ m₂ b
    have hdrawn := fullyDrawn_iff rand m₁
    rw [← randomIdRun_transactionid rand m₁ b] at hdrawn
    constructor
    · intro h
      have hfirst := hdrawn.mp h.drawn
      exact ⟨hfirst, (hsame.mp h.same).symm.trans hfirst⟩
    · intro h
      exact ⟨hsame.mpr (h.1.trans h.2.symm), hdrawn.mpr h.1⟩
  · intro cap legacy transid message pos hb
    have hlen : (RandomSource.transactionId ⟨rand, m₁⟩).id.length = 16 := (RandomSource.transactionId ⟨rand, m₁⟩).id_length
    obtain ⟨⟨⟩, after, hrun, hafter⟩ := addTransactionId_builtAt (RandomSource.transactionId ⟨rand, m₁⟩) b hb
    rw [hlen] at hafter
    apply Exists.intro (RandomSource.transactionId ⟨rand, m₁⟩)
    apply Exists.intro after
    refine ⟨?_, transactionId_eq rand m₁, hafter⟩
    rw [randomIdRun_eq, hrun]
    rfl

/-- No results of `rand()` make two runs agree whatever they find in memory. -/
theorem random_id_never_same (rand : Nat → Nat) (b : CStunMessageBuilder) :
    ¬ ∀ m₁ m₂ : StunTransactionId, randomIdRun rand m₁ b = randomIdRun rand m₂ b := by
  intro h
  have hbytes := (randomIdRun_eq_iff rand StunTransactionId.zero ⟨List.replicate 16 1, rfl⟩ b).mp (h _ _)
  exact absurd hbytes (by decide)

end Runs

/-- The run of `StartBindingRequest` on an empty message, with draws that are all 0: a local
of zeros and one of ones leave their last four bytes in the id. -/
theorem random_id_keeps_memory :
    let _ := Platform.armeabi
    ¬ SameDrawnId (fun _ => 0) (randomIdRun (fun _ => 0) StunTransactionId.zero CStunMessageBuilder.new)
      (randomIdRun (fun _ => 0) ⟨List.replicate 16 1, rfl⟩ CStunMessageBuilder.new) := by
  intro _ h
  have hbytes := (@randomIdRun_eq_iff Platform.armeabi (fun _ => 0) StunTransactionId.zero ⟨List.replicate 16 1, rfl⟩
    CStunMessageBuilder.new).mp h.same
  exact absurd hbytes (by decide)

end NatTester.Guarantees
