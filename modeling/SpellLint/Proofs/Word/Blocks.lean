import Mathlib.Data.List.Pairwise
import Mathlib.Data.List.Sort
import Mathlib.Tactic.Common

/-! # Blocks of positions

A list of blocks cuts the kept positions of a text into intervals: the blocks ascend, hold the kept positions and no
others, and hold two neighbours together exactly if these are joined. There is at most one such list
(`AreBlocks.unique`), and it can be built from the right, position by position.
-/

set_option autoImplicit false

namespace SpellLint.Word

/-- The positions from `start` up to, but without, `stop`. -/
structure Block where
  start : Nat
  stop : Nat
  deriving DecidableEq

/-- Whether a position is in a block. -/
def Block.Holds (b : Block) (i : Nat) : Prop := b.start ≤ i ∧ i < b.stop

/-- Whether a list of blocks is the one that the kept positions and the joined neighbours ask for. -/
structure AreBlocks (kept joined : Nat → Prop) (blocks : List Block) : Prop where
  ascending : blocks.Pairwise fun a b => a.stop ≤ b.start
  nonempty : ∀ b ∈ blocks, b.start < b.stop
  covers : ∀ i, (∃ b ∈ blocks, b.Holds i) ↔ kept i
  joins : ∀ i, (∃ b ∈ blocks, b.Holds i ∧ b.Holds (i + 1)) ↔ joined i

namespace AreBlocks

variable {kept joined : Nat → Prop} {blocks : List Block}

/-! ## Uniqueness -/

/-- Different blocks have no position in common. -/
theorem eq_of_holds (h : AreBlocks kept joined blocks) {a b : Block} (ha : a ∈ blocks) (hb : b ∈ blocks) {i : Nat}
    (hai : a.Holds i) (hbi : b.Holds i) : a = b := by
  have apart : blocks.Pairwise fun a b => a.Holds i → b.Holds i → a = b := by
    apply h.ascending.imp
    intro a b before hai hbi
    unfold Block.Holds at hai hbi
    omega
  have symm : Std.Symm fun a b : Block => a.Holds i → b.Holds i → a = b :=
    ⟨fun a b hab hbi hai => (hab hai hbi).symm⟩
  exact apart.forall_of_forall (fun _ _ _ _ => rfl) ha hb hai hbi

/-- A block of one list that shares a position with a block of another lies in it. -/
theorem holds_of_holds {others : List Block} (h : AreBlocks kept joined blocks) (h' : AreBlocks kept joined others)
    {a b : Block} (ha : a ∈ blocks) (hb : b ∈ others) {i : Nat} (hai : a.Holds i) (hbi : b.Holds i) :
    ∀ n j, (i + n = j ∨ j + n = i) → a.Holds j → b.Holds j := by
  -- One step along `a` stays in `b`, because neighbours in `a` are joined and hence together in some block.
  have step : ∀ k l, a.Holds k → a.Holds (k + 1) → (l = k ∨ l = k + 1) → b.Holds l → b.Holds k ∧ b.Holds (k + 1) := by
    intro k l hk hk' hl hbl
    obtain ⟨c, hc, hck, hck'⟩ := (h'.joins k).mpr ((h.joins k).mp ⟨a, ha, hk, hk'⟩)
    have hcl : c.Holds l := by
      rcases hl with rfl | rfl
      · exact hck
      · exact hck'
    obtain rfl := h'.eq_of_holds hc hb hcl hbl
    exact ⟨hck, hck'⟩
  intro n
  induction n with
  | zero =>
    intro j hj _
    have same : j = i := by omega
    exact same ▸ hbi
  | succ n ih =>
    rintro j (hj | hj) haj
    · have before : a.Holds (i + n) := by
        unfold Block.Holds at *
        omega
      have hbn := ih (i + n) (Or.inl rfl) before
      rw [show j = i + n + 1 by omega] at haj ⊢
      exact (step (i + n) (i + n) before haj (Or.inl rfl) hbn).2
    · have behind : a.Holds (j + 1) := by
        unfold Block.Holds at *
        omega
      have hbn := ih (j + 1) (Or.inr (by omega)) behind
      exact (step j (j + 1) haj behind (Or.inr rfl) hbn).1

theorem holds_iff {others : List Block} (h : AreBlocks kept joined blocks) (h' : AreBlocks kept joined others)
    {a b : Block} (ha : a ∈ blocks) (hb : b ∈ others) {i : Nat} (hai : a.Holds i) (hbi : b.Holds i) (j : Nat) :
    a.Holds j ↔ b.Holds j := by
  have distance : i + (j - i) = j ∨ j + (i - j) = i := by omega
  rcases distance with hj | hj
  · exact ⟨h.holds_of_holds h' ha hb hai hbi _ j (Or.inl hj), h'.holds_of_holds h hb ha hbi hai _ j (Or.inl hj)⟩
  · exact ⟨h.holds_of_holds h' ha hb hai hbi _ j (Or.inr hj), h'.holds_of_holds h hb ha hbi hai _ j (Or.inr hj)⟩

theorem mem_of_mem {others : List Block} (h : AreBlocks kept joined blocks) (h' : AreBlocks kept joined others)
    {a : Block} (ha : a ∈ blocks) : a ∈ others := by
  have filled := h.nonempty a ha
  have hai : a.Holds a.start := ⟨Nat.le_refl _, filled⟩
  obtain ⟨b, hb, hbi⟩ := (h'.covers a.start).mpr ((h.covers a.start).mp ⟨a, ha, hai⟩)
  have filled' := h'.nonempty b hb
  have same := h.holds_iff h' ha hb hai hbi
  have first := (same b.start).mpr ⟨Nat.le_refl _, filled'⟩
  have last := (same (a.stop - 1)).mp ⟨by omega, by omega⟩
  have last' := (same (b.stop - 1)).mpr ⟨by omega, by omega⟩
  unfold Block.Holds at *
  have eq : a = b := by
    obtain ⟨s, e⟩ := a
    obtain ⟨s', e'⟩ := b
    simp only [Block.mk.injEq] at *
    omega
  exact eq ▸ hb

/-- There is only one list of blocks. -/
theorem unique {others : List Block} (h : AreBlocks kept joined blocks) (h' : AreBlocks kept joined others) :
    blocks = others := by
  have strict : ∀ {list : List Block}, AreBlocks kept joined list → list.Pairwise fun a b => a.start < b.start := by
    intro list hl
    apply hl.ascending.imp_of_mem
    intro a b ha _ before
    exact Nat.lt_of_lt_of_le (hl.nonempty a ha) before
  have perm : blocks.Perm others := by
    rw [List.perm_ext_iff_of_nodup]
    · exact fun a => ⟨h.mem_of_mem h', h'.mem_of_mem h⟩
    · exact (strict h).imp fun before => ne_of_apply_ne Block.start (Nat.ne_of_lt before)
    · exact (strict h').imp fun before => ne_of_apply_ne Block.start (Nat.ne_of_lt before)
  exact perm.eq_of_pairwise (fun _ _ _ _ ab ba => absurd ba (Nat.lt_asymm ab)) (strict h) (strict h')

end AreBlocks

/-! ## Building blocks from the right -/

/-- The blocks of the positions from `i` on. -/
def AreBlocksFrom (kept joined : Nat → Prop) (i : Nat) (blocks : List Block) : Prop :=
  AreBlocks (fun j => i ≤ j ∧ kept j) (fun j => i ≤ j ∧ joined j) blocks

namespace AreBlocksFrom

variable {kept joined : Nat → Prop} {blocks : List Block} {i : Nat}

theorem zero (h : AreBlocksFrom kept joined 0 blocks) : AreBlocks kept joined blocks := by
  unfold AreBlocksFrom at h
  simpa only [Nat.zero_le, true_and] using h

theorem start_ge (h : AreBlocksFrom kept joined i blocks) {b : Block} (hb : b ∈ blocks) : i ≤ b.start :=
  ((h.covers b.start).mp ⟨b, hb, Nat.le_refl _, h.nonempty b hb⟩).1

theorem nil (hk : ∀ j, i ≤ j → ¬ kept j) (hj : ∀ j, joined j → kept j) : AreBlocksFrom kept joined i [] where
  ascending := List.Pairwise.nil
  nonempty := by simp
  covers j := by simpa using hk j
  joins j := by
    simp only [List.not_mem_nil, false_and, exists_false, false_iff, not_and]
    exact fun hij joins => hk j hij (hj j joins)

/-- A position that is not kept. -/
theorem skip (hk : ¬ kept i) (hj : ¬ joined i) (h : AreBlocksFrom kept joined (i + 1) blocks) :
    AreBlocksFrom kept joined i blocks where
  ascending := h.ascending
  nonempty := h.nonempty
  covers j := by
    rw [h.covers]
    grind
  joins j := by
    rw [h.joins]
    grind

/-- A kept position that is not joined to the next one. -/
theorem single (hk : kept i) (hj : ¬ joined i) (h : AreBlocksFrom kept joined (i + 1) blocks) :
    AreBlocksFrom kept joined i (⟨i, i + 1⟩ :: blocks) where
  ascending := List.Pairwise.cons (fun _ hb => h.start_ge hb) h.ascending
  nonempty := by
    intro b hb
    rcases List.mem_cons.mp hb with rfl | hb
    · exact Nat.lt_succ_self i
    · exact h.nonempty b hb
  covers j := by
    have alone : Block.Holds ⟨i, i + 1⟩ j ↔ j = i := by
      simp only [Block.Holds]
      omega
    simp only [List.mem_cons, exists_eq_or_imp, alone, h.covers]
    grind
  joins j := by
    have never : ¬ (Block.Holds ⟨i, i + 1⟩ j ∧ Block.Holds ⟨i, i + 1⟩ (j + 1)) := by
      simp only [Block.Holds]
      omega
    simp only [List.mem_cons, exists_eq_or_imp, never, false_or, h.joins]
    grind

/-- A kept position that is joined to the next one. -/
theorem extend (hk : kept i) (hk' : kept (i + 1)) (hj : joined i) (h : AreBlocksFrom kept joined (i + 1) blocks) :
    ∃ stop rest, blocks = ⟨i + 1, stop⟩ :: rest ∧ i + 1 < stop ∧
      AreBlocksFrom kept joined i (⟨i, stop⟩ :: rest) := by
  obtain ⟨b, hb, hbi⟩ := (h.covers (i + 1)).mpr ⟨Nat.le_refl _, hk'⟩
  cases blocks with
  | nil => simp at hb
  | cons first rest =>
    have below := List.pairwise_cons.mp h.ascending
    have filled := h.nonempty first (List.mem_cons_self ..)
    have from' := h.start_ge (List.mem_cons_self (a := first) (l := rest))
    have start : first.start = i + 1 := by
      unfold Block.Holds at hbi
      rcases List.mem_cons.mp hb with rfl | hb
      · omega
      · have := below.1 b hb
        omega
    obtain ⟨start', stop⟩ := first
    obtain rfl : start' = i + 1 := start
    have grown : ∀ j, Block.Holds ⟨i, stop⟩ j ↔ j = i ∨ Block.Holds ⟨i + 1, stop⟩ j := by
      intro j
      simp only [Block.Holds] at filled ⊢
      omega
    refine ⟨stop, rest, rfl, filled, ?_, ?_, ?_, ?_⟩
    · exact List.Pairwise.cons below.1 below.2
    · intro b hb
      rcases List.mem_cons.mp hb with rfl | hb
      · exact Nat.lt_of_succ_lt filled
      · exact h.nonempty b (List.mem_cons_of_mem _ hb)
    · intro j
      have old := h.covers j
      simp only [List.mem_cons, exists_eq_or_imp, grown] at old ⊢
      rw [or_assoc, old]
      grind
    · intro j
      have old := h.joins j
      have together : Block.Holds ⟨i, stop⟩ j ∧ Block.Holds ⟨i, stop⟩ (j + 1) ↔
          j = i ∨ Block.Holds ⟨i + 1, stop⟩ j ∧ Block.Holds ⟨i + 1, stop⟩ (j + 1) := by
        simp only [Block.Holds] at filled ⊢
        omega
      simp only [List.mem_cons, exists_eq_or_imp, together] at old ⊢
      rw [or_assoc, old]
      grind

end AreBlocksFrom

end SpellLint.Word
