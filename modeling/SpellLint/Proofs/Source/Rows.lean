import SpellLint.Proofs.Source.LineShape
import SpellLint.Source.Comment

/-! # Rows and lines

The scan for comments counts rows, and only a line feed ends a row. The table of lines also ends a line at a carriage
return without a line feed. So a row starts behind at least as many lines as rows, and the line of its index starts
where the row starts if and only if no such carriage return stands in the rows above.
-/

set_option autoImplicit false

namespace SpellLint.Source

open SpellLint.Text

variable {cs : List Char}

/-! ## Rows -/

theorem scanRows_cons (c : Char) (cs : List Char) :
    scanRows (c :: cs) = if c = '\n' then [c] :: scanRows cs else consFirst c (scanRows cs) := rfl

theorem flatten_consFirst (c : Char) (lines : List (List Char)) :
    (consFirst c lines).flatten = c :: lines.flatten := by
  cases lines <;> rfl

/-- The rows of a text make up the text. -/
theorem flatten_scanRows (cs : List Char) : (scanRows cs).flatten = cs := by
  induction cs with
  | nil => rfl
  | cons c cs ih =>
    rw [scanRows_cons]
    split
    · rw [List.flatten_cons, ih]
      rfl
    · rw [flatten_consFirst, ih]

/-- A line feed stands nowhere but at the end of a row. -/
theorem lineFeed_notMem_dropLast {row : List Char} (h : row ∈ scanRows cs) : '\n' ∉ row.dropLast := by
  induction cs generalizing row with
  | nil => cases h
  | cons c cs ih =>
    rw [scanRows_cons] at h
    split at h
    · rcases List.mem_cons.mp h with rfl | h
      · exact List.not_mem_nil
      · exact ih h
    · next other =>
      cases rows : scanRows cs with
      | nil =>
        rw [rows] at h
        obtain rfl := List.mem_singleton.mp h
        exact List.not_mem_nil
      | cons first below =>
        rw [rows] at h ih
        rcases List.mem_cons.mp h with rfl | h
        · cases first with
          | nil => exact List.not_mem_nil
          | cons d row =>
            rw [List.dropLast_cons_cons, List.mem_cons]
            rintro (same | inside)
            · exact other same.symm
            · exact ih List.mem_cons_self inside
        · exact ih (List.mem_cons_of_mem _ h)

theorem length_consFirst (c : Char) (lines : List (List Char)) : (consFirst c lines).length = max 1 lines.length := by
  cases lines with
  | nil => rfl
  | cons line lines => exact (Nat.max_eq_right (Nat.le_add_left 1 _)).symm

theorem length_scanRows_le (cs : List Char) : (scanRows cs).length ≤ (cutLines cs).length := by
  induction cs with
  | nil => exact Nat.le_refl 0
  | cons c cs ih =>
    rw [scanRows_cons, cutLines_cons]
    by_cases feed : c = '\n'
    · rw [if_pos feed, if_pos (.inl feed), List.length_cons, List.length_cons]
      exact Nat.succ_le_succ ih
    · rw [if_neg feed, length_consFirst]
      split
      · rw [List.length_cons]
        omega
      · rw [length_consFirst]
        omega

/-! ## Carriage returns without a line feed -/

/-- Somewhere in a text stands a carriage return that no line feed follows. -/
def HasLoneReturn (cs : List Char) : Prop :=
  ∃ front back, cs = front ++ '\r' :: back ∧ back.head? ≠ some '\n'

theorem not_hasLoneReturn_nil : ¬ HasLoneReturn [] := by
  rintro ⟨front, back, whole, -⟩
  exact List.append_ne_nil_of_right_ne_nil front (List.cons_ne_nil _ back) whole.symm

theorem hasLoneReturn_cons {c : Char} :
    HasLoneReturn (c :: cs) ↔ (c = '\r' ∧ cs.head? ≠ some '\n') ∨ HasLoneReturn cs := by
  constructor
  · rintro ⟨front, back, whole, next⟩
    cases front with
    | nil =>
      obtain ⟨rfl, rfl⟩ := List.cons.inj whole
      exact .inl ⟨rfl, next⟩
    | cons d front =>
      obtain ⟨rfl, rest⟩ := List.cons.inj whole
      exact .inr ⟨front, back, rest, next⟩
  · rintro (⟨rfl, next⟩ | ⟨front, back, rfl, next⟩)
    · exact ⟨[], cs, rfl, next⟩
    · exact ⟨c :: front, back, rfl, next⟩

theorem HasLoneReturn.of_take {n : Nat} (closed : (cs.take n).getLast? ≠ some '\r') (h : HasLoneReturn (cs.take n)) :
    HasLoneReturn cs := by
  obtain ⟨front, back, whole, next⟩ := h
  have text := List.take_append_drop n cs
  rw [whole, List.append_assoc, List.cons_append] at text
  refine ⟨front, back ++ cs.drop n, text.symm, ?_⟩
  cases back with
  | nil => exact absurd (by rw [whole, List.getLast?_concat]) closed
  | cons d back => exact next

/-! ## Lines of a text that ends in a line feed -/

/-- Behind a line feed the lines go on as if nothing stood in front. -/
theorem cutLines_append {front back : List Char} (closed : front = [] ∨ front.getLast? = some '\n') :
    cutLines (front ++ back) = cutLines front ++ cutLines back := by
  induction front with
  | nil => rfl
  | cons c front ih =>
    cases front with
    | nil =>
      obtain rfl : c = '\n' := by simpa using closed
      rfl
    | cons d front =>
      have closed : (d :: front).getLast? = some '\n' := by simpa using closed
      have rest := ih (.inr closed)
      rw [List.cons_append, cutLines_cons, cutLines_cons, List.cons_append, List.head?_cons, List.head?_cons,
        ← List.cons_append, rest]
      split
      · rfl
      · cases lines : cutLines (d :: front) with
        | nil => exact absurd (by rw [← flatten_cutLines (d :: front), lines]; rfl) (List.cons_ne_nil d front)
        | cons line lines => rfl

/-- A text that ends in a line feed has as many lines as rows, unless there is a carriage return without a line
feed. -/
theorem length_cutLines_eq_iff (closed : cs.getLast? = some '\n') :
    (cutLines cs).length = (scanRows cs).length ↔ ¬ HasLoneReturn cs := by
  induction cs with
  | nil => cases closed
  | cons c cs ih =>
    cases cs with
    | nil =>
      obtain rfl : c = '\n' := by simpa using closed
      have none : ¬ HasLoneReturn ['\n'] := by
        rw [hasLoneReturn_cons]
        rintro (⟨same, -⟩ | inside)
        · exact absurd same (by decide)
        · exact not_hasLoneReturn_nil inside
      exact iff_of_true rfl none
    | cons d cs =>
      have closed : (d :: cs).getLast? = some '\n' := by simpa using closed
      have rest := ih closed
      have le := length_scanRows_le (d :: cs)
      have rows : 1 ≤ (scanRows (d :: cs)).length := by
        cases found : scanRows (d :: cs) with
        | nil => exact absurd (by rw [← flatten_scanRows (d :: cs), found]; rfl) (List.cons_ne_nil d cs)
        | cons row rows => exact Nat.succ_pos _
      rw [scanRows_cons, cutLines_cons, hasLoneReturn_cons, not_or, ← rest]
      by_cases feed : c = '\n'
      · have other : ¬ (c = '\r' ∧ (d :: cs).head? ≠ some '\n') := by
          rintro ⟨rfl, -⟩
          exact absurd feed (by decide)
        rw [if_pos feed, if_pos (.inl feed), List.length_cons, List.length_cons, Nat.succ_inj]
        exact (and_iff_right other).symm
      · rw [if_neg feed, length_consFirst]
        by_cases lone : c = '\r' ∧ (d :: cs).head? ≠ some '\n'
        · rw [if_pos (.inr lone), List.length_cons]
          constructor
          · intro same
            omega
          · intro absent
            exact absurd lone absent.1
        · have inside : ¬ EndsLine c (d :: cs).head? := by
            rintro (same | found)
            · exact feed same
            · exact lone found
          rw [if_neg inside, length_consFirst, Nat.max_eq_right rows, Nat.max_eq_right (Nat.le_trans rows le)]
          exact ⟨fun same => ⟨lone, same⟩, fun h => h.2⟩

/-! ## Where rows start -/

/-- The text in front of a row. -/
def textAbove (cs : List Char) (row : Nat) : List Char := cs.take (startOf (scanRows cs) row)

theorem textAbove_eq (cs : List Char) (row : Nat) : textAbove cs row = ((scanRows cs).take row).flatten := by
  have text := flatten_scanRows cs
  rw [← List.take_append_drop row (scanRows cs), List.flatten_append] at text
  have cut := congrArg (List.take (startOf (scanRows cs) row)) text
  rw [startOf, List.take_left] at cut
  exact cut.symm

theorem length_textAbove (cs : List Char) (row : Nat) : (textAbove cs row).length = startOf (scanRows cs) row := by
  rw [textAbove_eq, startOf]

/-- The text in front of a row has its own rows, and a line feed at the end. -/
theorem scanRows_textAbove {row : Nat} (h : row < (scanRows cs).length) :
    scanRows (textAbove cs row) = (scanRows cs).take row ∧
      (textAbove cs row = [] ∨ (textAbove cs row).getLast? = some '\n') := by
  simp only [textAbove_eq]
  induction cs generalizing row with
  | nil => exact absurd h (Nat.not_lt_zero row)
  | cons c cs ih =>
    cases row with
    | zero => exact ⟨rfl, .inl rfl⟩
    | succ row =>
      rw [scanRows_cons] at h ⊢
      by_cases feed : c = '\n'
      · rw [if_pos feed] at h ⊢
        obtain ⟨rows, closed⟩ := ih (Nat.lt_of_succ_lt_succ h)
        rw [List.take_succ_cons, List.flatten_cons, List.singleton_append, scanRows_cons, if_pos feed, rows]
        refine ⟨rfl, .inr ?_⟩
        rcases closed with empty | closed
        · rw [empty, feed]
          rfl
        · rw [List.getLast?_cons, closed]
          rfl
      · rw [if_neg feed] at h ⊢
        cases found : scanRows cs with
        | nil =>
          rw [found] at h
          exact absurd (Nat.lt_of_succ_lt_succ h) (Nat.not_lt_zero row)
        | cons first below =>
          rw [found] at h ih
          obtain ⟨rows, closed⟩ := ih h
          have taken : (consFirst c (first :: below)).take (row + 1) =
              consFirst c ((first :: below).take (row + 1)) := rfl
          rw [taken, flatten_consFirst, scanRows_cons, if_neg feed, rows]
          refine ⟨rfl, .inr ?_⟩
          rcases closed with empty | closed
          · rw [empty] at rows
            cases rows
          · rw [List.getLast?_cons, closed]
            rfl

/-- The line with the index of a row starts where the row starts, unless a carriage return without a line feed stands
above; then it starts earlier. -/
theorem startOf_cutLines_eq_iff {row : Nat} (h : row < (scanRows cs).length) :
    startOf (cutLines cs) row = startOf (scanRows cs) row ↔ ¬ HasLoneReturn (textAbove cs row) := by
  obtain ⟨rows, closed⟩ := scanRows_textAbove h
  have count : (scanRows (textAbove cs row)).length = row := by
    rw [rows, List.length_take, Nat.min_eq_left (Nat.le_of_lt h)]
  have lines : cutLines cs = cutLines (textAbove cs row) ++ cutLines (cs.drop (startOf (scanRows cs) row)) := by
    rw [← cutLines_append closed, textAbove, List.take_append_drop]
  have behind : startOf (cutLines cs) (cutLines (textAbove cs row)).length = startOf (scanRows cs) row := by
    rw [lines, startOf_append, flatten_cutLines, length_textAbove]
  have settled : (cutLines (textAbove cs row)).length = row ↔ ¬ HasLoneReturn (textAbove cs row) := by
    rcases closed with empty | closed
    · rw [empty] at count ⊢
      exact iff_of_true count not_hasLoneReturn_nil
    · rw [← length_cutLines_eq_iff closed, count]
  rw [← settled]
  constructor
  · intro same
    have le := length_scanRows_le (textAbove cs row)
    rw [count] at le
    rcases Nat.eq_or_lt_of_le le with equal | less
    · exact equal.symm
    · -- a further line above the row is not empty, so that the row starts behind the start of that line
      have inside : (cutLines (textAbove cs row)).length ≤ (cutLines cs).length := by
        rw [lines, List.length_append]
        exact Nat.le_add_right _ _
      have before := (linesOf_cutLines cs).startOf_lt less inside
      rw [behind, same] at before
      exact absurd before (Nat.lt_irrefl _)
  · intro equal
    rw [equal] at behind
    exact behind

end SpellLint.Source
