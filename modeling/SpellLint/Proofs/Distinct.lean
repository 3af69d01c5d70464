import Mathlib.Data.List.Permutation
import Mathlib.Data.String.Basic

/-! # Lists without repetition

A list that is made by adding what is not there yet has the members of the list that it is made from, each of them
once. Sorting distinct texts makes them ascend strictly.
-/

set_option autoImplicit false

namespace SpellLint

section

variable {α : Type} [BEq α] [LawfulBEq α]

/-- One more member, unless it is there. -/
def addNew (seen : List α) (a : α) : List α := if seen.contains a then seen else seen ++ [a]

theorem mem_addNew {seen : List α} {a b : α} : b ∈ addNew seen a ↔ b ∈ seen ∨ b = a := by
  unfold addNew
  split
  · next known =>
    constructor
    · exact .inl
    · rintro (h | rfl)
      · exact h
      · exact List.contains_iff_mem.mp known
  · simp

theorem nodup_addNew {seen : List α} (h : seen.Nodup) (a : α) : (addNew seen a).Nodup := by
  unfold addNew
  split
  · exact h
  · next new =>
    rw [List.nodup_append]
    refine ⟨h, List.pairwise_singleton _ a, ?_⟩
    intro b hb c hc same
    rw [List.mem_singleton.mp hc] at same
    exact new (List.contains_iff_mem.mpr (same ▸ hb))

theorem mem_foldl_addNew {as seen : List α} {b : α} : b ∈ as.foldl addNew seen ↔ b ∈ seen ∨ b ∈ as := by
  induction as generalizing seen with
  | nil => simp
  | cons a as ih => rw [List.foldl_cons, ih, mem_addNew, List.mem_cons, or_assoc]

theorem nodup_foldl_addNew {as seen : List α} (h : seen.Nodup) : (as.foldl addNew seen).Nodup := by
  induction as generalizing seen with
  | nil => exact h
  | cons a as ih => exact ih (nodup_addNew h a)

end

/-- Sorting by distinct keys gives ascending keys. -/
theorem pairwise_mergeSort_key {α : Type} (key : α → String) {l : List α} (distinct : (l.map key).Nodup) :
    (l.mergeSort fun a b => key a ≤ key b).Pairwise fun a b => key a < key b := by
  have transitive : ∀ a b c : α, decide (key a ≤ key b) = true → decide (key b ≤ key c) = true →
      decide (key a ≤ key c) = true := by
    intro a b c hab hbc
    exact decide_eq_true (le_trans (of_decide_eq_true hab) (of_decide_eq_true hbc))
  have total : ∀ a b : α, (decide (key a ≤ key b) || decide (key b ≤ key a)) = true := by
    intro a b
    simpa using le_total (key a) (key b)
  have sorted := List.pairwise_mergeSort transitive total l
  have apart : (l.mergeSort fun a b => key a ≤ key b).Pairwise fun a b => key a ≠ key b := by
    rw [← List.pairwise_map (R := (· ≠ ·))]
    exact ((List.mergeSort_perm l _).map key).nodup_iff.mpr distinct
  refine (sorted.and apart).imp ?_
  intro a b ⟨le, ne⟩
  exact lt_of_le_of_ne (of_decide_eq_true le) ne

end SpellLint
