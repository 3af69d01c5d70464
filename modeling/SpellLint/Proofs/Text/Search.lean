import Mathlib.Algebra.Group.Nat.Defs
import Mathlib.Data.List.Pairwise
import SpellLint.Text.CodePoints

/-! # Search in tables

Halving counts the keys of an increasing sequence that are at most a number (`lt_countAtMost_iff`). So a set of code
points has one answer for all points between two of its turns (`CodePoints.mem_of_settledOn`), which is seen by passing
the turns once in order, and each of its members is between two turns (`CodePoints.exists_turns_of_mem`).
-/

set_option autoImplicit false

namespace SpellLint.Text

/-! ## Search by halving -/

/-- What halving keeps: the keys before `lo` are at most `n`, and those from `hi` on are larger. -/
structure Bracketed (key : Nat → Nat) (size n lo hi : Nat) : Prop where
  ordered : lo ≤ hi
  inside : hi ≤ size
  below : ∀ i < lo, key i ≤ n
  above : ∀ i, hi ≤ i → i < size → n < key i

section

variable {key : Nat → Nat} {size n : Nat}

/-- Halving ends when nothing is left between the two bounds. -/
theorem countBetween_bracketed (sorted : ∀ i j, i ≤ j → j < size → key i ≤ key j) (steps : Nat) :
    ∀ {lo hi : Nat}, Bracketed key size n lo hi → hi - lo < 2 ^ steps →
      Bracketed key size n (countBetween key n steps lo hi) (countBetween key n steps lo hi) := by
  induction steps with
  | zero =>
    intro lo hi kept narrow
    have ordered := kept.ordered
    have met : hi = lo := by
      rw [Nat.pow_zero] at narrow
      omega
    subst met
    exact kept
  | succ steps ih =>
    intro lo hi kept narrow
    have ordered := kept.ordered
    have inside := kept.inside
    rw [Nat.pow_succ] at narrow
    rw [countBetween]
    by_cases apart : lo < hi
    · rw [if_pos apart]
      by_cases small : key ((lo + hi) / 2) ≤ n
      · rw [if_pos small]
        refine ih ⟨by omega, inside, ?_, kept.above⟩ (by omega)
        intro i hlt
        exact Nat.le_trans (sorted i ((lo + hi) / 2) (by omega) (by omega)) small
      · rw [if_neg small]
        refine ih ⟨by omega, by omega, kept.below, ?_⟩ (by omega)
        intro i hle hlt
        exact Nat.lt_of_lt_of_le (Nat.lt_of_not_le small) (sorted _ i hle hlt)
    · rw [if_neg apart]
      have met : hi = lo := by omega
      subst met
      exact kept

theorem countAtMost_bracketed (sorted : ∀ i j, i ≤ j → j < size → key i ≤ key j) :
    Bracketed key size n (countAtMost key size n) (countAtMost key size n) := by
  have start : Bracketed key size n 0 size := by
    refine ⟨Nat.zero_le _, Nat.le_refl _, fun i hlt => absurd hlt (Nat.not_lt_zero i), fun i hle hlt => ?_⟩
    omega
  have narrow : size - 0 < 2 ^ (size.log2 + 2) := by
    have bound := Nat.lt_log2_self (n := size)
    rw [Nat.pow_succ]
    omega
  exact countBetween_bracketed sorted _ start narrow

theorem countAtMost_le (sorted : ∀ i j, i ≤ j → j < size → key i ≤ key j) : countAtMost key size n ≤ size :=
  (countAtMost_bracketed sorted).inside

/-- The first `countAtMost` keys of an increasing sequence are those that are at most `n`. -/
theorem lt_countAtMost_iff (sorted : ∀ i j, i ≤ j → j < size → key i ≤ key j) {i : Nat} (hi : i < size) :
    i < countAtMost key size n ↔ key i ≤ n := by
  have found := countAtMost_bracketed (n := n) sorted
  constructor
  · exact found.below i
  · intro small
    apply Nat.lt_of_not_le
    intro beyond
    exact Nat.not_lt_of_le small (found.above i beyond hi)

end

/-! ## Sets of code points -/

theorem lookupSorted_mem {α : Type} {table : Array (Nat × α)} {n : Nat} {v : α} (found : lookupSorted table n = some v) :
    (n, v) ∈ table.toList := by
  unfold lookupSorted at found
  split at found
  · next k w entry =>
    split at found
    · next same =>
      obtain rfl := Option.some.inj found
      obtain rfl := same
      exact Array.mem_toList_iff.mpr (Array.mem_of_getElem? entry)
    · cases found
  · cases found

namespace CodePoints

/-- The point at which the membership of a set changes for the `i`th time. -/
def turn (s : CodePoints) (i : Nat) : Nat := s.turns.getD i 0

/-- The turns of a set stand in order. -/
def Increasing (s : CodePoints) : Prop := s.turns.toList.IsChain (· ≤ ·)

instance (s : CodePoints) : Decidable s.Increasing := inferInstanceAs (Decidable (List.IsChain _ _))

theorem turn_eq_getElem {s : CodePoints} {i : Nat} (bound : i < s.turns.toList.length) :
    s.turn i = s.turns.toList[i] := by
  simp [turn, Array.getD, Array.length_toList ▸ bound]

theorem Increasing.turn_le {s : CodePoints} (increasing : s.Increasing) (i j : Nat) (le : i ≤ j)
    (bound : j < s.turns.size) : s.turn i ≤ s.turn j := by
  have pairwise := List.pairwise_iff_getElem.mp (List.isChain_iff_pairwise.mp increasing)
  rw [← Array.length_toList] at bound
  rcases Nat.eq_or_lt_of_le le with rfl | lt
  · exact Nat.le_refl _
  · rw [turn_eq_getElem (Nat.lt_trans lt bound), turn_eq_getElem bound]
    exact pairwise i j _ bound lt

/-- A point that some first turns, and no others, have come up to is a member exactly when they are odd in number. -/
theorem mem_eq_of_cut {s : CodePoints} (increasing : s.Increasing) {n : Nat} {passed ts : List Nat}
    (cut : s.turns.toList = passed ++ ts) (below : ∀ t ∈ passed, t ≤ n) (above : ∀ t ∈ ts.head?, n < t) :
    s.mem n = decide (passed.length % 2 = 1) := by
  have size : s.turns.size = s.turns.toList.length := Array.length_toList.symm
  have length : s.turns.toList.length = passed.length + ts.length := by
    rw [cut, List.length_append]
  have count_le := countAtMost_le (n := n) increasing.turn_le
  have count : countAtMost s.turn s.turns.size n = passed.length := by
    apply Nat.le_antisymm
    · by_contra more
      have inside : passed.length < s.turns.toList.length := by omega
      have small := (lt_countAtMost_iff (n := n) increasing.turn_le (by omega)).mp (Nat.lt_of_not_le more)
      refine absurd (above (s.turn passed.length) ?_) (Nat.not_lt_of_le small)
      rw [turn_eq_getElem inside, List.getElem_of_eq cut, List.getElem_append_right (Nat.le_refl _)]
      simp [List.head?_eq_getElem?]
    · by_contra fewer
      have inside : countAtMost s.turn s.turns.size n < s.turns.toList.length := by omega
      have member : s.turn (countAtMost s.turn s.turns.size n) ∈ passed := by
        rw [turn_eq_getElem inside, List.getElem_of_eq cut, List.getElem_append_left (Nat.lt_of_not_le fewer)]
        exact List.getElem_mem _
      have found := (lt_countAtMost_iff (n := n) increasing.turn_le (by omega)).mpr (below _ member)
      omega
  change decide (countAtMost s.turn s.turns.size n % 2 = 1) = decide (passed.length % 2 = 1)
  rw [count]

/-- Whether all points from `lo` to `hi` have one answer, with the turns `ts` to pass; `inside` is the answer in front
of them. -/
def settled (answer : Bool) (lo hi : Nat) : (inside : Bool) → (ts : List Nat) → Bool
  | inside, [] => inside == answer
  | inside, t :: ts => bif t.ble lo then settled answer lo hi (!inside) ts else hi.blt t && inside == answer

/-- Whether a set has one answer for all points from `lo` to `hi`. -/
def settledOn (s : CodePoints) (answer : Bool) (lo hi : Nat) : Bool := settled answer lo hi false s.turns.toList

theorem mem_of_settled {s : CodePoints} (increasing : s.Increasing) {answer : Bool} {lo n hi : Nat} (low : lo ≤ n)
    (high : n ≤ hi) (passed ts : List Nat) (cut : s.turns.toList = passed ++ ts) (small : ∀ t ∈ passed, t ≤ lo)
    (found : settled answer lo hi (decide (passed.length % 2 = 1)) ts = true) : s.mem n = answer := by
  have below : ∀ t ∈ passed, t ≤ n := fun t member => Nat.le_trans (small t member) low
  induction ts generalizing passed with
  | nil =>
    rw [mem_eq_of_cut increasing cut below (fun _ none => nomatch none)]
    exact beq_iff_eq.mp found
  | cons t ts ih =>
    rw [settled, Bool.cond_eq_ite] at found
    by_cases passes : t.ble lo = true
    · rw [if_pos passes] at found
      have le := Nat.le_of_ble_eq_true passes
      have small' : ∀ t' ∈ passed ++ [t], t' ≤ lo := by
        intro t' member
        rcases List.mem_append.mp member with member | member
        · exact small t' member
        · rw [List.mem_singleton.mp member]
          exact le
      refine ih (passed ++ [t]) (by rw [cut, List.append_assoc, List.singleton_append]) small' ?_
        (fun t' member => Nat.le_trans (small' t' member) low)
      have turned : decide ((passed ++ [t]).length % 2 = 1) = !decide (passed.length % 2 = 1) := by
        rw [List.length_append, List.length_singleton, ← decide_not]
        exact decide_eq_decide.mpr (by omega)
      rw [turned]
      exact found
    · rw [if_neg passes, Bool.and_eq_true, Nat.blt_eq] at found
      have above : ∀ t' ∈ (t :: ts).head?, n < t' := by
        intro t' first
        rw [← Option.some.inj first]
        exact Nat.lt_of_le_of_lt high found.1
      rw [mem_eq_of_cut increasing cut below above]
      exact beq_iff_eq.mp found.2

theorem mem_of_settledOn {s : CodePoints} (increasing : s.Increasing) {answer : Bool} {lo n hi : Nat}
    (found : s.settledOn answer lo hi = true) (low : lo ≤ n) (high : n ≤ hi) : s.mem n = answer :=
  mem_of_settled increasing low high [] _ rfl (fun _ member => absurd member List.not_mem_nil) found

/-- A member of a set lies between two of its turns. -/
theorem exists_turns_of_mem {s : CodePoints} (increasing : s.Increasing) (closed : s.turns.size % 2 = 0) {n : Nat}
    (member : s.mem n = true) : ∃ i < s.turns.size, i % 2 = 0 ∧ s.turn i ≤ n ∧ n < s.turn (i + 1) := by
  have odd : countAtMost s.turn s.turns.size n % 2 = 1 := of_decide_eq_true member
  have bound := countAtMost_le (n := n) increasing.turn_le
  have before := lt_countAtMost_iff (n := n) increasing.turn_le (i := countAtMost s.turn s.turns.size n - 1) (by omega)
  have behind := lt_countAtMost_iff (n := n) increasing.turn_le (i := countAtMost s.turn s.turns.size n) (by omega)
  refine ⟨countAtMost s.turn s.turns.size n - 1, by omega, by omega, before.mp (by omega), ?_⟩
  rw [Nat.sub_add_cancel (by omega)]
  omega

end CodePoints

end SpellLint.Text
