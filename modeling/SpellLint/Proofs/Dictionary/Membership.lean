import SpellLint.Proofs.Findings.Order
import SpellLint.Proofs.Text.Lowering

/-! # The words of a dictionary

A dictionary knows the normal forms of the words that it has been given, the empty form apart. Normal forms are fixed
(`normalForm_normalForm`), so a dictionary that is built once more from its own words and new ones is the extended one
(`words_ofWords_append`). More words only make a dictionary larger. Extending step by step is the same as being given all
words at once (`foldl_extended`), so only the set of the given words matters (`chain_words`).
-/

set_option autoImplicit false

namespace SpellLint

open SpellLint.Text

theorem normalForm_normalForm (word : String) : normalForm (normalForm word) = normalForm word := by
  have trimmed := trimmed_lowerChars (trimmed_trim word.toList)
  unfold normalForm lower strip
  simp only [String.toList_ofList]
  rw [trim_of_trimmed trimmed, lowerChars_lowerChars]

namespace Dictionary

theorem mem_words {d : Dictionary} {form : String} : form ∈ d.words ↔ form ∈ d.known := Std.TreeSet.mem_toList

theorem contains_iff {d : Dictionary} {word : String} : d.contains word = true ↔ normalForm word ∈ d.words := by
  rw [mem_words, contains, Std.TreeSet.mem_iff_contains]

theorem mem_words_learn {d : Dictionary} {word form : String} :
    form ∈ (d.learn word).words ↔ form ∈ d.words ∨ form ≠ "" ∧ normalForm word = form := by
  unfold learn
  dsimp only
  split
  · next blank => grind
  · next filled =>
    rw [mem_words, Std.TreeSet.mem_insert, Std.LawfulEqCmp.compare_eq_iff_eq, ← mem_words]
    grind

theorem mem_words_extended {d : Dictionary} {words : List String} {form : String} :
    form ∈ (d.extended words).words ↔ form ∈ d.words ∨ form ≠ "" ∧ ∃ word ∈ words, normalForm word = form := by
  unfold extended
  induction words generalizing d with
  | nil => simp
  | cons word words ih =>
    rw [List.foldl_cons, ih, mem_words_learn, or_assoc, ← and_or_left]
    simp only [List.mem_cons, exists_eq_or_imp]

theorem mem_words_ofWords {words : List String} {form : String} :
    form ∈ (ofWords words).words ↔ form ≠ "" ∧ ∃ word ∈ words, normalForm word = form := by
  have blank : form ∉ empty.words := List.not_mem_nil
  unfold ofWords
  rw [mem_words_extended]
  exact or_iff_right blank

/-! ## Larger dictionaries -/

theorem words_subset_extended (d : Dictionary) (words : List String) : d.words ⊆ (d.extended words).words :=
  fun _ member => mem_words_extended.mpr (.inl member)

theorem extended_subset {d d' : Dictionary} {words words' : List String} (known : d.words ⊆ d'.words)
    (given : words ⊆ words') : (d.extended words).words ⊆ (d'.extended words').words := by
  intro form member
  rw [mem_words_extended] at member ⊢
  rcases member with member | ⟨filled, word, member, same⟩
  · exact .inl (known member)
  · exact .inr ⟨filled, word, given member, same⟩

theorem ofSources_subset {lists lists' : List (List String)} (more : lists ⊆ lists') :
    (ofSources lists).words ⊆ (ofSources lists').words := by
  refine extended_subset (List.Subset.refl _) ?_
  intro word member
  obtain ⟨list, listed, member⟩ := List.mem_flatten.mp member
  exact List.mem_flatten.mpr ⟨list, more listed, member⟩

/-! ## Building once more -/

/-- All words of a dictionary are normal forms, and none is empty. -/
def Normal (d : Dictionary) : Prop := ∀ form ∈ d.words, form ≠ "" ∧ normalForm form = form

theorem normal_extended {d : Dictionary} (h : d.Normal) (words : List String) : (d.extended words).Normal := by
  intro form member
  rcases mem_words_extended.mp member with member | ⟨filled, word, -, rfl⟩
  · exact h form member
  · exact ⟨filled, normalForm_normalForm word⟩

theorem normal_ofSources (lists : List (List String)) : (ofSources lists).Normal :=
  normal_extended (fun _ member => absurd member List.not_mem_nil) lists.flatten

/-- A dictionary that is built from the words of another and from new ones is the other one, extended. -/
theorem words_ofWords_append {d : Dictionary} (h : d.Normal) (words : List String) :
    (ofWords (d.words ++ words)).words = (d.extended words).words := by
  apply toList_congr
  intro form
  rw [← mem_words, ← mem_words, mem_words_ofWords, mem_words_extended]
  constructor
  · rintro ⟨filled, word, member, rfl⟩
    rcases List.mem_append.mp member with old | new
    · rw [(h word old).2]
      exact .inl old
    · exact .inr ⟨filled, word, new, rfl⟩
  · rintro (old | ⟨filled, word, new, rfl⟩)
    · exact ⟨(h form old).1, form, List.mem_append_left _ old, (h form old).2⟩
    · exact ⟨filled, word, List.mem_append_right _ new, rfl⟩

/-! ## Chains of extensions -/

theorem mem_words_ofSources {lists : List (List String)} {form : String} :
    form ∈ (ofSources lists).words ↔ form ≠ "" ∧ ∃ word ∈ lists.flatten, normalForm word = form :=
  mem_words_ofWords

theorem contains_ofSources_iff {lists : List (List String)} {word : String} :
    (ofSources lists).contains word = true ↔
      normalForm word ≠ "" ∧ ∃ given ∈ lists.flatten, normalForm given = normalForm word := by
  rw [contains_iff, mem_words_ofSources]

theorem foldl_extended (lists steps : List (List String)) :
    steps.foldl extended (ofSources lists) = ofSources (lists ++ steps) := by
  unfold ofSources ofWords extended
  rw [← List.foldl_flatten, ← List.foldl_append, ← List.flatten_append]

theorem words_ofSources_congr {lists lists' : List (List String)}
    (same : ∀ word, word ∈ lists.flatten ↔ word ∈ lists'.flatten) :
    (ofSources lists).words = (ofSources lists').words := by
  apply toList_congr
  intro form
  rw [← mem_words, ← mem_words, mem_words_ofSources, mem_words_ofSources]
  simp only [same]

/-- A dictionary that is made anew from the words of another and from more words. -/
def renewed (d : Dictionary) (words : List String) : Dictionary := ofWords (d.words ++ words)

theorem words_foldl_renewed (lists steps : List (List String)) :
    (steps.foldl renewed (ofSources lists)).words = (steps.foldl extended (ofSources lists)).words := by
  induction steps using List.reverseRecOn with
  | nil => rfl
  | append_singleton steps words ih =>
    have normal : (steps.foldl extended (ofSources lists)).Normal := by
      rw [foldl_extended]
      exact normal_ofSources _
    rw [List.foldl_concat, List.foldl_concat, renewed, ih, words_ofWords_append normal]

/-- Every dictionary of a chain of extensions, whatever comes later in the chain, holds the normal forms of the words
given up to it. Only the set of the given words matters, and it is the same to make each dictionary anew. -/
theorem chain_words (lists steps : List (List String)) :
    (∀ k ≤ steps.length, ∃ d, (steps.scanl extended (ofSources lists))[k]? = some d ∧
      (∀ form, form ∈ d.words ↔
        form ≠ "" ∧ ∃ word ∈ (lists ++ steps.take k).flatten, normalForm word = form) ∧
      (∀ form ∈ d.words, normalForm form = form) ∧
      ∀ word, d.contains word = true ↔
        normalForm word ≠ "" ∧ ∃ given ∈ (lists ++ steps.take k).flatten, normalForm given = normalForm word) ∧
    (∀ lists' steps' : List (List String),
      (∀ word, word ∈ (lists ++ steps).flatten ↔ word ∈ (lists' ++ steps').flatten) →
        (steps.foldl extended (ofSources lists)).words = (steps'.foldl extended (ofSources lists')).words) ∧
    (steps.foldl renewed (ofSources lists)).words = (steps.foldl extended (ofSources lists)).words := by
  refine ⟨?_, ?_, words_foldl_renewed lists steps⟩
  · intro k bound
    refine ⟨ofSources (lists ++ steps.take k), ?_, ?_, ?_, ?_⟩
    · rw [List.getElem?_scanl, if_pos bound, foldl_extended]
    · exact fun form => mem_words_ofSources
    · exact fun form member => (normal_ofSources _ form member).2
    · exact fun word => contains_ofSources_iff
  · intro lists' steps' same
    rw [foldl_extended, foldl_extended]
    exact words_ofSources_congr same

end Dictionary

end SpellLint
