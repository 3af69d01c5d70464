import Mathlib.Data.List.Basic
import Mathlib.Data.String.Basic

/-! # Cutting texts at a separator

A separator is looked for from the left. If its first character is in none of the texts that it joins, cutting at it
gives these texts back: one cut gives the front and what is behind it (`cutAtFirst_append`), all cuts give all of the
texts (`piecesBetween_intercalate`).
-/

set_option autoImplicit false

namespace SpellLint.Text

/-- What stands in front of the first occurrence of a separator, and what stands behind it. -/
def cutAtFirst (sep : List Char) : List Char → Option (List Char × List Char)
  | [] => none
  | c :: cs =>
    if sep.isPrefixOf (c :: cs) then some ([], cs.drop (sep.length - 1))
    else (cutAtFirst sep cs).map fun cut => (c :: cut.1, cut.2)

theorem length_lt_of_cutAtFirst {sep cs front back : List Char} (found : cutAtFirst sep cs = some (front, back)) :
    back.length < cs.length := by
  induction cs generalizing front with
  | nil => cases found
  | cons c cs ih =>
    unfold cutAtFirst at found
    split at found
    · obtain ⟨-, rfl⟩ := Prod.mk.inj (Option.some.inj found)
      rw [List.length_drop, List.length_cons]
      omega
    · obtain ⟨⟨front', back'⟩, later, same⟩ := Option.map_eq_some_iff.mp found
      obtain ⟨-, rfl⟩ := Prod.mk.inj same
      exact Nat.lt_succ_of_lt (ih later)

/-- The pieces of a text between the occurrences of a separator, which do not overlap; empty ones included, at least
one. -/
def piecesBetween (sep cs : List Char) : List (List Char) :=
  match _ : cutAtFirst sep cs with
  | none => [cs]
  | some (front, back) => front :: piecesBetween sep back
termination_by cs.length
decreasing_by exact length_lt_of_cutAtFirst ‹_›

theorem piecesBetween_of_uncut {sep cs : List Char} (uncut : cutAtFirst sep cs = none) :
    piecesBetween sep cs = [cs] := by
  unfold piecesBetween
  split
  · rfl
  · next found =>
    rw [uncut] at found
    cases found

theorem piecesBetween_of_cut {sep cs front back : List Char} (cut : cutAtFirst sep cs = some (front, back)) :
    piecesBetween sep cs = front :: piecesBetween sep back := by
  rw [piecesBetween]
  split
  · next found =>
    rw [cut] at found
    cases found
  · next found =>
    rw [cut] at found
    obtain ⟨rfl, rfl⟩ := Prod.mk.inj (Option.some.inj found)
    rfl

/-! ## Texts without the first character of the separator -/

section

variable {s : Char} {seps : List Char}

theorem cutAtFirst_cons_of_ne {c : Char} (other : s ≠ c) (cs : List Char) :
    cutAtFirst (s :: seps) (c :: cs) = (cutAtFirst (s :: seps) cs).map fun cut => (c :: cut.1, cut.2) := by
  have here : (s :: seps).isPrefixOf (c :: cs) = false := by
    rw [List.isPrefixOf, beq_eq_false_iff_ne.mpr other, Bool.false_and]
  rw [cutAtFirst, here, if_neg Bool.false_ne_true]

theorem cutAtFirst_of_notMem {cs : List Char} (free : s ∉ cs) : cutAtFirst (s :: seps) cs = none := by
  induction cs with
  | nil => rfl
  | cons c cs ih =>
    obtain ⟨other, later⟩ := List.ne_and_not_mem_of_not_mem_cons free
    rw [cutAtFirst_cons_of_ne other, ih later, Option.map_none]

/-- A text is cut behind a front that does not have the first character of the separator. -/
theorem cutAtFirst_append {front : List Char} (free : s ∉ front) (back : List Char) :
    cutAtFirst (s :: seps) (front ++ (s :: seps ++ back)) = some (front, back) := by
  induction front with
  | nil =>
    have here : (s :: seps).isPrefixOf (s :: seps ++ back) = true :=
      List.isPrefixOf_iff_prefix.mpr (List.prefix_append _ back)
    rw [List.nil_append, List.cons_append, cutAtFirst, ← List.cons_append, if_pos here, List.length_cons,
      Nat.add_sub_cancel, List.drop_left]
  | cons c front ih =>
    obtain ⟨other, later⟩ := List.ne_and_not_mem_of_not_mem_cons free
    rw [List.cons_append, cutAtFirst_cons_of_ne other, ih later, Option.map_some]

/-- Joined texts are the pieces of what they are joined to. -/
theorem piecesBetween_intercalate {words : List (List Char)} (filled : words ≠ []) (free : ∀ word ∈ words, s ∉ word) :
    piecesBetween (s :: seps) ((s :: seps).intercalate words) = words := by
  induction words with
  | nil => exact absurd rfl filled
  | cons word words ih =>
    obtain ⟨here, later⟩ := List.forall_mem_cons.mp free
    cases words with
    | nil => rw [List.intercalate_singleton, piecesBetween_of_uncut (cutAtFirst_of_notMem here)]
    | cons next words =>
      rw [List.intercalate_cons_cons, List.append_assoc, piecesBetween_of_cut (cutAtFirst_append here _),
        ih (List.cons_ne_nil _ _) later]

end

/-! ## Strings -/

/-- A text cut at the first occurrence of a separator. -/
def cutText (sep text : String) : Option (String × String) :=
  (cutAtFirst sep.toList text.toList).map fun cut => (String.ofList cut.1, String.ofList cut.2)

/-- The pieces of a text between the occurrences of a separator. -/
def splitText (sep text : String) : List String := (piecesBetween sep.toList text.toList).map String.ofList

section

variable {sep : String} {s : Char}

theorem cutText_append (starts : sep.toList.head? = some s) {front : String} (free : s ∉ front.toList)
    (back : String) : cutText sep (front ++ sep ++ back) = some (front, back) := by
  obtain ⟨seps, shape⟩ := List.head?_eq_some_iff.mp starts
  rw [cutText, String.toList_append, String.toList_append, List.append_assoc, shape, cutAtFirst_append free,
    Option.map_some, String.ofList_toList, String.ofList_toList]

theorem splitText_intercalate (starts : sep.toList.head? = some s) {words : List String} (filled : words ≠ [])
    (free : ∀ word ∈ words, s ∉ word.toList) : splitText sep (sep.intercalate words) = words := by
  obtain ⟨seps, shape⟩ := List.head?_eq_some_iff.mp starts
  have filled' : words.map String.toList ≠ [] := mt List.map_eq_nil_iff.mp filled
  have free' : ∀ chars ∈ words.map String.toList, s ∉ chars := List.forall_mem_map.mpr free
  have back : ∀ word : String, String.ofList word.toList = word := fun word => String.ofList_toList
  rw [splitText, String.toList_intercalate, shape, piecesBetween_intercalate filled' free', List.map_map]
  exact (List.map_congr_left fun word _ => back word).trans (List.map_id words)

end

end SpellLint.Text
