import SpellLint.Proofs.Dictionary.Membership
import SpellLint.Proofs.Text.Casing

/-! # Words in other cases

A dictionary keeps the lower case forms of its words. The lower case form of a known word is always known; its upper
case form is known of itself exactly when each of its characters comes back (`contains_casings`).
-/

set_option autoImplicit false

namespace SpellLint

open SpellLint.Text

theorem normalForm_lower (word : String) : normalForm (lower word) = normalForm word := by
  unfold normalForm lower strip
  simp only [String.toList_ofList]
  rw [trim_lowerChars, lowerChars_lowerChars]

theorem normalForm_upper_iff (word : String) :
    normalForm (upper word) = normalForm word ↔ AllComeBack [] (trim word.toList) := by
  unfold normalForm lower strip upper
  simp only [String.toList_ofList]
  rw [trim_upperChars, String.ofList_inj]
  exact lowerChars_upperChars_iff

theorem normalForm_ne_empty {word : String} (nonblank : strip word ≠ "") : normalForm word ≠ "" := by
  intro blank
  have none : lowerChars (strip word).toList = [] := by
    rw [← String.toList_ofList (l := lowerChars (strip word).toList)]
    exact congrArg String.toList blank
  have grown := length_le_length_lowerChars (strip word).toList
  rw [← length_lowerAfter [], ← lowerChars, none] at grown
  have empty := List.length_eq_zero_iff.mp (Nat.le_zero.mp grown)
  exact nonblank (String.toList_inj.mp empty)

namespace Dictionary

theorem contains_given {lists : List (List String)} {word form : String} (nonblank : strip word ≠ "")
    (given : word ∈ lists.flatten) (same : normalForm form = normalForm word) : (ofSources lists).contains form = true := by
  refine contains_ofSources_iff.mpr ⟨?_, word, given, same.symm⟩
  rw [same]
  exact normalForm_ne_empty nonblank

/-- A word that a dictionary was given is known as it stands and in lower case. It is known in upper case, whatever else
was given, exactly when all of its characters come back, as those of ASCII do. -/
theorem contains_casings (word : String) (nonblank : strip word ≠ "") :
    (∀ lists : List (List String), word ∈ lists.flatten →
      (ofSources lists).contains word = true ∧ (ofSources lists).contains (lower word) = true) ∧
    ((∀ lists : List (List String), word ∈ lists.flatten → (ofSources lists).contains (upper word) = true) ↔
      AllComeBack [] (trim word.toList)) ∧
    ((∀ c ∈ word.toList, c.toNat < 0x80) → AllComeBack [] (trim word.toList)) := by
  refine ⟨?_, ⟨?_, ?_⟩, ?_⟩
  · intro lists given
    exact ⟨contains_given nonblank given rfl, contains_given nonblank given (normalForm_lower word)⟩
  · -- a dictionary of this word alone tells whether its upper case form has the same normal form
    intro known
    have alone := known [[word]] (List.mem_flatten.mpr ⟨[word], List.mem_singleton_self _, List.mem_singleton_self _⟩)
    obtain ⟨-, given, member, same⟩ := contains_ofSources_iff.mp alone
    rw [List.flatten_singleton, List.mem_singleton] at member
    rw [member] at same
    exact (normalForm_upper_iff word).mp same.symm
  · intro back lists given
    exact contains_given nonblank given ((normalForm_upper_iff word).mpr back)
  · intro ascii
    obtain ⟨front, back, cut, -, -⟩ := exists_ends word.toList
    refine allComeBack_of_ascii (fun c member => ascii c ?_) []
    rw [cut]
    exact List.mem_append_left _ (List.mem_append_right _ member)

theorem contains_casings_odysseus : strip "Οδυσσεύς" ≠ "" ∧
    ∀ lists : List (List String), "Οδυσσεύς" ∈ lists.flatten → (ofSources lists).contains "ΟΔΥΣΣΕΎΣ" = true := by
  have nonblank : strip "Οδυσσεύς" ≠ "" := by decide +kernel
  have back : AllComeBack [] (trim "Οδυσσεύς".toList) := by decide +kernel
  have form : upper "Οδυσσεύς" = "ΟΔΥΣΣΕΎΣ" := by decide +kernel
  exact ⟨nonblank, form ▸ (contains_casings "Οδυσσεύς" nonblank).2.1.mpr back⟩

/-- A sharp s is two letters in upper case and stays so in lower case, so the lower case forms do not meet. -/
theorem sharp_unknown_in_upper_case : strip "Straße" ≠ "" ∧ lower "Straße" = "straße" ∧ upper "Straße" = "STRASSE" ∧
    (ofSources [["Straße"]]).contains "Straße" = true ∧ (ofSources [["Straße"]]).contains "straße" = true ∧
    (ofSources [["Straße"]]).contains "STRASSE" = false := by
  decide +kernel

end Dictionary

end SpellLint
