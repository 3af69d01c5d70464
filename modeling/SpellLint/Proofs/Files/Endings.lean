import SpellLint.Files.Discovery
import SpellLint.Proofs.Text.Lowering

/-! # The ending of a name

A search looks at a name from its last point on, wherever the point stands. The extension of a path is cut off there
too, but not at the first and not at the last character. So the two are the same unless the last point of a name is
its first or its last character.
-/

set_option autoImplicit false

namespace SpellLint

open SpellLint.Text

/-! ## The last point -/

/-- A text is cut at its last point. -/
def CutAtPoint (cs front back : List Char) : Prop := cs = front ++ '.' :: back ∧ '.' ∉ back

theorem exists_cutAtPoint {cs : List Char} (h : '.' ∈ cs) : ∃ front back, CutAtPoint cs front back := by
  obtain ⟨back, front, whole, last⟩ := List.eq_append_cons_of_mem (List.mem_reverse.mpr h)
  refine ⟨front.reverse, back.reverse, ?_, fun inside => last (List.mem_reverse.mp inside)⟩
  rw [← List.reverse_reverse cs, whole, List.reverse_append, List.reverse_cons, List.append_assoc,
    List.singleton_append]

namespace CutAtPoint

variable {cs front back : List Char}

/-- What stands behind the last point. -/
theorem tail_eq (h : CutAtPoint cs front back) : (cs.reverse.takeWhile (· ≠ '.')).reverse = back := by
  obtain ⟨rfl, last⟩ := h
  have plain : ∀ c ∈ back.reverse, decide (c ≠ '.') = true := by
    intro c hc
    have other : c ≠ '.' := fun same => last (same ▸ List.mem_reverse.mp hc)
    exact decide_eq_true other
  rw [List.reverse_append, List.reverse_cons, List.append_assoc, List.singleton_append,
    List.takeWhile_append_of_pos plain, List.takeWhile_cons_of_neg (by decide), List.append_nil, List.reverse_reverse]

theorem unique {front' back' : List Char} (h : CutAtPoint cs front back) (h' : CutAtPoint cs front' back') :
    front = front' ∧ back = back' := by
  obtain rfl : back = back' := h.tail_eq.symm.trans h'.tail_eq
  exact ⟨List.append_cancel_right (h.1.symm.trans h'.1), rfl⟩

theorem length_eq (h : CutAtPoint cs front back) : cs.length = front.length + back.length + 1 := by
  rw [h.1, List.length_append, List.length_cons, Nat.add_assoc]

end CutAtPoint

theorem tail_of_noPoint {cs : List Char} (h : '.' ∉ cs) : (cs.reverse.takeWhile (· ≠ '.')).reverse = cs := by
  rw [List.takeWhile_eq_self_iff.mpr, List.reverse_reverse]
  intro c hc
  have other : c ≠ '.' := fun same => h (same ▸ List.mem_reverse.mp hc)
  exact decide_eq_true other

/-! ## What a search looks at -/

theorem ending_of_cutAtPoint {name : String} {front back : List Char} (h : CutAtPoint name.toList front back) :
    ending name = lower (String.ofList ('.' :: back)) := by
  unfold ending
  have long : back.length ≠ name.toList.length := by
    have length := h.length_eq
    omega
  simp only [h.tail_eq, long, if_false]

theorem ending_of_noPoint {name : String} (h : '.' ∉ name.toList) : ending name = "" := by
  unfold ending
  simp only [tail_of_noPoint h, if_true]

/-- A text is the lower case form of a name from its last point on. -/
def EndsIn (name extension : String) : Prop :=
  ∃ front back, CutAtPoint name.toList front back ∧ extension = lower (String.ofList ('.' :: back))

theorem endsIn_iff {name extension : String} (h : extension ≠ "") :
    EndsIn name extension ↔ ending name = extension := by
  constructor
  · rintro ⟨front, back, cut, rfl⟩
    exact ending_of_cutAtPoint cut
  · rintro rfl
    by_cases point : '.' ∈ name.toList
    · obtain ⟨front, back, cut⟩ := exists_cutAtPoint point
      exact ⟨front, back, cut, ending_of_cutAtPoint cut⟩
    · exact absurd (ending_of_noPoint point) h

/-! ## The extension of a path -/

theorem suffix_of_cutAtPoint {p : Path} {front back : List Char} (h : CutAtPoint p.name.toList front back) :
    p.suffix = if front ≠ [] ∧ back ≠ [] then String.ofList ('.' :: back) else "" := by
  have count : p.name.toList.length - back.length = front.length + 1 := by
    have length := h.length_eq
    omega
  unfold Path.suffix Path.splitName
  simp only [h.tail_eq, count]
  cases front with
  | nil => simp
  | cons c front => cases back <;> simp

theorem suffix_of_noPoint {p : Path} (h : '.' ∉ p.name.toList) : p.suffix = "" := by
  unfold Path.suffix Path.splitName
  simp only [tail_of_noPoint h, Nat.sub_self]
  rfl

theorem lower_empty : lower "" = "" := rfl

theorem lower_ofList_cons_ne_empty (c : Char) (cs : List Char) : lower (String.ofList (c :: cs)) ≠ "" := by
  intro empty
  obtain ⟨forms, lowered, some, -⟩ := lowerAfter_cons [] c cs
  have none := congrArg String.toList empty
  rw [lower, String.toList_ofList, String.toList_ofList, lowerChars, lowered] at none
  exact some (List.append_eq_nil_iff.mp none).1

/-- The extension of a path is what a search looks at unless the last point of the name is its first or its last
character. -/
theorem extension_eq_ending_iff (p : Path) :
    p.extension = ending p.name ↔ ∀ front back, CutAtPoint p.name.toList front back → front ≠ [] ∧ back ≠ [] := by
  by_cases point : '.' ∈ p.name.toList
  · obtain ⟨front, back, cut⟩ := exists_cutAtPoint point
    rw [Path.extension, suffix_of_cutAtPoint cut, ending_of_cutAtPoint cut]
    constructor
    · intro same front' back' cut'
      obtain ⟨rfl, rfl⟩ := cut.unique cut'
      by_contra outer
      rw [if_neg outer, lower_empty] at same
      exact lower_ofList_cons_ne_empty '.' back same.symm
    · intro inner
      rw [if_pos (inner front back cut)]
  · refine iff_of_true ?_ ?_
    · rw [Path.extension, suffix_of_noPoint point, ending_of_noPoint point, lower_empty]
    · rintro front back ⟨whole, -⟩
      rw [whole] at point
      exact absurd (List.mem_append_right front List.mem_cons_self) point

end SpellLint
