import Mathlib.Algebra.Group.Nat.Defs
import SpellLint.Proofs.Text.Search
import SpellLint.Source.Lines

/-! # The table of lines

The lines of a text are told from its end, character by character, and each starts behind all lines before it. Halving
the list of starts finds the line of an offset, which is the last one that does not start behind it.
-/

set_option autoImplicit false

namespace SpellLint.Source

open SpellLint.Text

/-! ## The lines of a text -/

/-- A character that ends a line: a line feed, or a carriage return that no line feed follows. -/
def EndsLine (c : Char) (next : Option Char) : Prop := c = '\n' ∨ (c = '\r' ∧ next ≠ some '\n')

instance (c : Char) (next : Option Char) : Decidable (EndsLine c next) := inferInstanceAs (Decidable (_ ∨ _))

theorem head_foldr_consSourceLine (cs : List Char) : (cs.foldr consSourceLine (none, [])).1 = cs.head? := by
  cases cs <;> rfl

@[simp] theorem cutLines_nil : cutLines [] = [] := rfl

theorem cutLines_cons (c : Char) (cs : List Char) :
    cutLines (c :: cs) = if EndsLine c cs.head? then [c] :: cutLines cs else consFirst c (cutLines cs) := by
  unfold cutLines EndsLine
  rw [List.foldr_cons, consSourceLine, head_foldr_consSourceLine]
  rfl

/-! ## Where lines start -/

/-- The number of characters before a line. -/
def startOf (lines : List (List Char)) (i : Nat) : Nat := (lines.take i).flatten.length

theorem startOf_append (above lines : List (List Char)) :
    startOf (above ++ lines) above.length = above.flatten.length := by
  rw [startOf, List.take_left]

theorem startOf_succ {lines : List (List Char)} {i : Nat} {line : List Char} (h : lines[i]? = some line) :
    startOf lines (i + 1) = startOf lines i + line.length := by
  simp [startOf, List.take_add_one, h]

theorem startOf_mono {lines : List (List Char)} {i j : Nat} (h : i ≤ j) : startOf lines i ≤ startOf lines j := by
  have split := List.take_append_drop i (lines.take j)
  rw [List.take_take, Nat.min_eq_left h] at split
  rw [startOf, startOf, ← split, List.flatten_append, List.length_append]
  exact Nat.le_add_right _ _

theorem startOf_of_length_le {lines : List (List Char)} {i : Nat} (h : lines.length ≤ i) :
    startOf lines i = lines.flatten.length := by
  rw [startOf, List.take_of_length_le h]

theorem length_lineStarts (offset : Nat) (lines : List (List Char)) :
    (lineStarts offset lines).length = lines.length := by
  induction lines generalizing offset with
  | nil => rfl
  | cons line lines ih => rw [lineStarts, List.length_cons, List.length_cons, ih]

theorem getD_lineStarts {offset i : Nat} {lines : List (List Char)} (h : i < lines.length) :
    (lineStarts offset lines).getD i 0 = offset + startOf lines i := by
  induction lines generalizing offset i with
  | nil => exact absurd h (Nat.not_lt_zero i)
  | cons line lines ih =>
    cases i with
    | zero => simp [lineStarts, startOf]
    | succ i =>
      have inside : i < lines.length := Nat.lt_of_succ_lt_succ h
      rw [lineStarts, List.getD_cons_succ, ih inside]
      simp [startOf, Nat.add_assoc]

namespace LineTable

variable (cs : List Char)

theorem getD_starts {i : Nat} (h : i < (cutLines cs).length) :
    (ofChars cs).starts.getD i 0 = startOf (cutLines cs) i := by
  have listed : (lineStarts 0 (cutLines cs)).getD i 0 = 0 + startOf (cutLines cs) i := getD_lineStarts h
  rw [Nat.zero_add] at listed
  rw [← listed]
  simp [ofChars]

theorem size_starts : (ofChars cs).starts.size = (cutLines cs).length := by
  simp [ofChars, length_lineStarts]

theorem starts_sorted (i j : Nat) (hle : i ≤ j) (hlt : j < (ofChars cs).starts.size) :
    (ofChars cs).starts.getD i 0 ≤ (ofChars cs).starts.getD j 0 := by
  rw [size_starts] at hlt
  rw [getD_starts cs (Nat.lt_of_le_of_lt hle hlt), getD_starts cs hlt]
  exact startOf_mono hle

/-- The number of lines that do not start behind an offset. -/
def linesBefore (p : Nat) : Nat :=
  countAtMost (fun i => (ofChars cs).starts.getD i 0) (ofChars cs).starts.size p

theorem linesBefore_le (p : Nat) : linesBefore cs p ≤ (cutLines cs).length := by
  rw [← size_starts]
  exact countAtMost_le (starts_sorted cs)

theorem lt_linesBefore_iff {p i : Nat} (hi : i < (cutLines cs).length) :
    i < linesBefore cs p ↔ startOf (cutLines cs) i ≤ p := by
  have found := lt_countAtMost_iff (n := p) (starts_sorted cs) (i := i) (by rw [size_starts]; exact hi)
  rw [getD_starts cs hi] at found
  exact found

theorem lineOf_eq (p : Nat) :
    (ofChars cs).lineOf p = if linesBefore cs p = 0 then none else some (linesBefore cs p - 1) := by
  unfold lineOf linesBefore
  rw [if_neg (by omega), Int.toNat_natCast]
  split
  · next nothing => rw [nothing, if_pos rfl]
  · next n counted => rw [counted, if_neg (Nat.succ_ne_zero n), Nat.succ_sub_one]

/-- Only the empty text has no line for an offset. -/
theorem lineOf_eq_none_iff {p : Nat} : (ofChars cs).lineOf p = none ↔ cutLines cs = [] := by
  have bound := linesBefore_le cs p
  rw [lineOf_eq]
  constructor
  · intro nothing
    cases cut : cutLines cs with
    | nil => rfl
    | cons line below =>
      have inside : 0 < (cutLines cs).length := by rw [cut]; exact Nat.succ_pos _
      have counted := (lt_linesBefore_iff cs (p := p) inside).mpr (Nat.zero_le _)
      rw [if_neg (Nat.ne_of_gt counted)] at nothing
      cases nothing
  · intro empty
    rw [empty] at bound
    exact if_pos (Nat.le_zero.mp bound)

/-- The line of an offset: the last that does not start behind it. -/
theorem lineOf_eq_some_iff {p i : Nat} :
    (ofChars cs).lineOf p = some i ↔
      i < (cutLines cs).length ∧ startOf (cutLines cs) i ≤ p ∧
        ∀ j, i < j → j < (cutLines cs).length → p < startOf (cutLines cs) j := by
  have bound := linesBefore_le cs p
  have found : (ofChars cs).lineOf p = some i ↔ linesBefore cs p = i + 1 := by
    rw [lineOf_eq]
    split
    · simp_all
    · simp only [Option.some.injEq]
      omega
  rw [found]
  constructor
  · intro counted
    have hi : i < (cutLines cs).length := by omega
    refine ⟨hi, (lt_linesBefore_iff cs hi).mp (by omega), ?_⟩
    intro j hij hj
    apply Nat.lt_of_not_le
    intro small
    have before := (lt_linesBefore_iff cs hj).mpr small
    omega
  · intro ⟨hi, small, large⟩
    have before := (lt_linesBefore_iff cs hi).mpr small
    rcases Nat.lt_or_ge (i + 1) (linesBefore cs p) with more | last
    · have next := (lt_linesBefore_iff cs (Nat.lt_of_lt_of_le more bound)).mp more
      have behind := large (i + 1) (Nat.lt_succ_self i) (by omega)
      omega
    · omega

end LineTable

end SpellLint.Source
