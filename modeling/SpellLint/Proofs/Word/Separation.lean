import SpellLint.Proofs.Word.OnePass

/-! # Words on the two sides of a separator

A character that can be in no word keeps the words on its two sides apart: no cut and no look-ahead reaches across it
(`wordsAfter_append_cons`). So the words of texts that are joined with such characters between them are the words of the
single texts, in order (`splitChars_intercalate`).
-/

set_option autoImplicit false

namespace SpellLint.Word

open SpellLint.Text

/-- Whether a character is in no word, whatever stands around it. -/
def Separates (keep : Bool) (c : Char) : Prop := isAlphanumeric c = false ∧ (keep = true → isApostrophe c = false)

instance (keep : Bool) : DecidablePred (Separates keep) := fun _ => inferInstanceAs (Decidable (_ ∧ _))

section

variable {keep : Bool} {c s : Char}

theorem Separates.isKept_eq_false (h : Separates keep s) (afterWord : Bool) (rest : List Char) :
    isKept keep afterWord s rest = false := by
  obtain ⟨separator, apostrophe⟩ := h
  unfold isKept
  cases keep with
  | false => simp [separator]
  | true => simp [separator, apostrophe rfl]

theorem startsWord_append_cons (h : Separates keep s) (cs rest : List Char) :
    startsWord (cs ++ s :: rest) = startsWord cs := by
  cases cs with
  | nil => exact h.1
  | cons c cs => rfl

theorem isKept_append_cons (h : Separates keep s) (afterWord : Bool) (c : Char) (cs rest : List Char) :
    isKept keep afterWord c (cs ++ s :: rest) = isKept keep afterWord c cs := by
  unfold isKept
  rw [startsWord_append_cons h]

/-- Neither the next character nor the one behind it is looked for behind a separator. -/
theorem goesOn_append_cons (h : Separates keep s) (c : Char) (cs rest : List Char) :
    goesOn keep c (cs ++ s :: rest) = goesOn keep c cs := by
  cases cs with
  | nil => simp [goesOn, h.isKept_eq_false]
  | cons d cs =>
    have next : ((cs ++ s :: rest).head?.filter isAlphanumeric) = cs.head?.filter isAlphanumeric := by
      cases cs with
      | nil => simp [h.1]
      | cons e cs => rfl
    rw [List.cons_append, goesOn, goesOn, isKept_append_cons h, next]

theorem wordsAfter_ne_nil_of_goesOn {cs : List Char} (h : goesOn keep c cs = true) :
    wordsAfter keep (isAlphanumeric c) cs ≠ [] := by
  obtain ⟨d, rest, rfl, kept, -⟩ := exists_next_of_goesOn h
  rw [wordsAfter_cons_of_kept kept]
  split
  · cases wordsAfter keep (isAlphanumeric d) rest <;> simp [consFirst]
  · exact List.cons_ne_nil _ _

theorem wordsAfter_append_cons (h : Separates keep s) (afterWord : Bool) (cs rest : List Char) :
    wordsAfter keep afterWord (cs ++ s :: rest) = wordsAfter keep afterWord cs ++ wordsAfter keep false rest := by
  induction cs generalizing afterWord with
  | nil =>
    rw [List.nil_append, wordsAfter_cons_of_dropped (h.isKept_eq_false afterWord rest), h.1]
    rfl
  | cons c cs ih =>
    have same := isKept_append_cons h afterWord c cs rest
    rw [List.cons_append]
    cases kept : isKept keep afterWord c cs with
    | false => rw [wordsAfter_cons_of_dropped (same.trans kept), wordsAfter_cons_of_dropped kept, ih]
    | true =>
      rw [wordsAfter_cons_of_kept (same.trans kept), wordsAfter_cons_of_kept kept, goesOn_append_cons h, ih]
      split
      · next goes => exact consFirst_append c _ (wordsAfter_ne_nil_of_goesOn goes)
      · rfl

end

/-! ## Texts with separators between them -/

section

variable {keep : Bool}

theorem splitChars_append_cons {s : Char} (h : Separates keep s) (cs rest : List Char) :
    splitChars keep (cs ++ s :: rest) = splitChars keep cs ++ splitChars keep rest := by
  simp only [splitChars_eq_wordsAfter, wordsAfter_append_cons h]

theorem splitChars_separators_append {sep : List Char} (separates : ∀ c ∈ sep, Separates keep c)
    (rest : List Char) : splitChars keep (sep ++ rest) = splitChars keep rest := by
  induction sep with
  | nil => rfl
  | cons s sep ih =>
    have first := splitChars_append_cons (separates s List.mem_cons_self) [] (sep ++ rest)
    rw [List.cons_append]
    exact first.trans (ih fun c member => separates c (List.mem_cons_of_mem s member))

theorem splitChars_append {sep : List Char} (filled : sep ≠ []) (separates : ∀ c ∈ sep, Separates keep c)
    (cs rest : List Char) :
    splitChars keep (cs ++ sep ++ rest) = splitChars keep cs ++ splitChars keep rest := by
  obtain ⟨s, more, rfl⟩ := List.exists_cons_of_ne_nil filled
  have first := separates s List.mem_cons_self
  have others : ∀ c ∈ more, Separates keep c := fun c member => separates c (List.mem_cons_of_mem s member)
  rw [List.append_assoc, List.cons_append, splitChars_append_cons first, splitChars_separators_append others]

/-- The words of joined texts are the words of the texts. -/
theorem splitChars_intercalate {sep : List Char} (filled : sep ≠ []) (separates : ∀ c ∈ sep, Separates keep c)
    (texts : List (List Char)) :
    splitChars keep (sep.intercalate texts) = texts.flatMap (splitChars keep) := by
  induction texts with
  | nil => rfl
  | cons text texts ih =>
    cases texts with
    | nil => rw [List.intercalate_singleton, List.flatMap_singleton]
    | cons next texts =>
      rw [List.intercalate_cons_cons, splitChars_append filled separates, ih, List.flatMap_cons (x := text)]

theorem segmentChars_intercalate {sep : List Char} (filled : sep ≠ []) (separates : ∀ c ∈ sep, Separates keep c)
    (texts : List (List Char)) :
    segmentChars keep (sep.intercalate texts) = texts.flatMap (segmentChars keep) := by
  unfold segmentChars
  rw [splitChars_intercalate filled separates, List.filter_flatMap]

theorem segment_append_separator {s : Char} (h : Separates keep s) (a b : String) :
    segment (a ++ String.singleton s ++ b) keep = segment a keep ++ segment b keep := by
  have chars : (a ++ String.singleton s ++ b).toList = a.toList ++ s :: b.toList := by simp
  unfold segment segmentChars
  rw [chars, splitChars_append_cons h, List.filter_append, List.map_append]

end

end SpellLint.Word
