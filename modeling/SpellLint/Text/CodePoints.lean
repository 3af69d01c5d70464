/-! # Sets and maps of code points

Properties of characters are tables over code points. A set is kept as the increasing sequence of the points at
which membership changes, so that `c` is a member exactly when an odd number of them is at most `c`. A map is
kept as runs of code points that are all moved by the same amount. Both are searched by halving.
-/

set_option autoImplicit false

namespace SpellLint.Text

/-! ## Search in an increasing sequence -/

/-- Narrows `lo ≤ count ≤ hi` for the number of indices whose key is at most `n`. -/
def countBetween (key : Nat → Nat) (n : Nat) : (steps lo hi : Nat) → Nat
  | 0, lo, _ => lo
  | steps + 1, lo, hi =>
    if lo < hi then
      let mid := (lo + hi) / 2
      if key mid ≤ n then countBetween key n steps (mid + 1) hi else countBetween key n steps lo mid
    else lo

/-- How many of the first `size` keys of an increasing sequence are at most `n`. -/
def countAtMost (key : Nat → Nat) (size n : Nat) : Nat :=
  countBetween key n (size.log2 + 2) 0 size

/-- The value kept under `n` in a table sorted by its first components. -/
def lookupSorted {α : Type} (table : Array (Nat × α)) (n : Nat) : Option α :=
  match table[countAtMost (fun i => (table[i]?.map (·.1)).getD 0) table.size n - 1]? with
  | some (k, v) => if k = n then some v else none
  | none => none

/-! ## Sets -/

/-- A set of code points, given by the points at which membership changes, in increasing order. -/
structure CodePoints where
  turns : Array Nat

/-- Whether `n` is in the set. -/
def CodePoints.mem (s : CodePoints) (n : Nat) : Bool :=
  countAtMost (fun i => s.turns.getD i 0) s.turns.size n % 2 = 1

/-! ## Runs of a map -/

/-- The code points `first`, `first + stride`, up to `last`, each moved by `shift`. -/
structure CaseRun where
  first : Nat
  last : Nat
  stride : Nat
  shift : Int

/-- The image of `n` under runs sorted by their first code point; `none` if no run holds it. -/
def moveBy (runs : Array CaseRun) (n : Nat) : Option Nat :=
  match runs[countAtMost (fun i => (runs[i]?.map (·.first)).getD 0) runs.size n - 1]? with
  | some r =>
    if r.first ≤ n ∧ n ≤ r.last ∧ (n - r.first) % r.stride = 0 then some (n + r.shift).toNat else none
  | none => none

end SpellLint.Text
