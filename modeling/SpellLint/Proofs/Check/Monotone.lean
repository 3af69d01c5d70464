import SpellLint.Proofs.Check.Reported
import SpellLint.Proofs.Spelling.Unknown

/-! # More words and stricter policies report less

A word that is reported with a larger dictionary, or under a policy that looks at less, is also reported with the
smaller one, or under the policy that looks at more (`FoundAt.anti`). Possessives are no part of this order: they change
where words are cut.
-/

set_option autoImplicit false

namespace SpellLint

/-! ## Findings -/

/-- A policy looks at nothing that another does not look at, and cuts words alike. -/
structure Policy.Within (strict loose : Policy) : Prop where
  possessives : strict.possessives = loose.possessives
  exportedOnly : loose.exportedOnly = true → strict.exportedOnly = true
  comments : strict.comments = true → loose.comments = true

theorem Policy.Within.refl (policy : Policy) : policy.Within policy := ⟨rfl, id, id⟩

theorem Findings.Wanted.loosen {strict loose : Policy} (within : strict.Within loose) {node : Node}
    (wanted : Wanted strict node) : Wanted loose node := by
  obtain ⟨kind, visible⟩ := wanted
  refine ⟨?_, fun only => visible (within.exportedOnly only)⟩
  rcases kind with name | doc | ⟨comment, looked⟩
  · exact .inl name
  · exact .inr (.inl doc)
  · exact .inr (.inr ⟨comment, within.comments looked⟩)

/-- What is found with more words under a stricter policy is also found with fewer words under a looser one. -/
theorem Findings.FoundAt.anti {d d' : Dictionary} (more : d.words ⊆ d'.words) {strict loose : Policy}
    (within : strict.Within loose) {nodes : List Node} {span : Span} {word : String}
    (found : FoundAt d' strict nodes span word) : FoundAt d loose nodes span word := by
  obtain ⟨node, member, place, wanted, text, carried, blank, unknown⟩ := found
  rw [within.possessives] at unknown
  exact ⟨node, member, place, wanted.loosen within, text, carried, blank, mem_unknownWords_of_subset more unknown⟩

theorem Findings.FoundAt.normalForm_notMem {d : Dictionary} {policy : Policy} {nodes : List Node} {span : Span}
    {word : String} (found : FoundAt d policy nodes span word) : normalForm word ∉ d.words := by
  obtain ⟨node, -, -, -, text, -, -, unknown⟩ := found
  exact normalForm_notMem_words unknown

/-! ## Reports -/

theorem Value.texts_injective {words words' : List String} (same : texts words = texts words') : words = words' :=
  List.map_injective_iff.mpr (fun _ _ h => text.inj h) (list.inj same)

namespace SpellingCheck

/-- A word is reported at a span: a failed result has the span and mentions the word. -/
def Reports (results : List Result) (span : Span) (word : String) : Prop :=
  ∃ r ∈ results, r.passed = false ∧ r.span = some span ∧
    ∃ words, r.details.get "words" = .texts words ∧ word ∈ words

section

variable (path : Path) (extension : String) (size : Nat)

theorem reports_resultsOf_iff (shared : Dictionary) (policy : Policy) (view : SourceView) (span : Span)
    (word : String) :
    Reports (resultsOf shared policy path extension size view) span word ↔
      Findings.FoundAt (shared.extended view.acceptedWords) policy view.nodes.value span word := by
  let found := Findings.ofNodes (shared.extended view.acceptedWords) policy view.nodes.value
  have listed : Reports (resultsOf shared policy path extension size view) span word ↔
      ∃ words, (span, words) ∈ found.ordered ∧ word ∈ words := by
    rw [resultsOf_eq]
    dsimp only
    split
    · next nothing =>
      rw [show found.ordered = [] from nothing]
      simp [Reports, success]
    · constructor
      · rintro ⟨r, inResults, -, place, words, mentioned, mem⟩
        obtain ⟨finding, member, rfl⟩ := List.mem_map.mp inResults
        obtain rfl : finding.1 = span := Option.some.inj place
        obtain rfl : finding.2 = words := Value.texts_injective mentioned
        exact ⟨finding.2, member, mem⟩
      · rintro ⟨words, member, mem⟩
        exact ⟨_, List.mem_map_of_mem member, rfl, rfl, words, rfl, mem⟩
  rw [listed, ← Findings.mem_wordsAt_ofNodes, ← Std.TreeSet.mem_toList]
  constructor
  · rintro ⟨words, member, mem⟩
    obtain ⟨-, rfl⟩ := (Findings.mem_ordered found span words).mp member
    exact mem
  · intro mem
    exact ⟨_, (Findings.mem_ordered found span _).mpr ⟨List.ne_nil_of_mem mem, rfl⟩, mem⟩

/-- More words, be they added to the dictionary or to its word lists or accepted by the source itself, never add a
report, nor does leaving out what is not visible, nor leaving out comments. The normal form of a reported word is not in
the dictionary of the source. -/
theorem reports_antitone (policy : Policy) (view : SourceView) (span : Span) (word : String) :
    (∀ shared words, Reports (resultsOf (shared.extended words) policy path extension size view) span word →
      Reports (resultsOf shared policy path extension size view) span word) ∧
    (∀ lists words,
      Reports (resultsOf (.ofWords ((Dictionary.ofSources lists).words ++ words)) policy path extension size view) span
          word →
        Reports (resultsOf (.ofSources lists) policy path extension size view) span word) ∧
    (∀ lists lists', lists ⊆ lists' →
      Reports (resultsOf (.ofSources lists') policy path extension size view) span word →
        Reports (resultsOf (.ofSources lists) policy path extension size view) span word) ∧
    ∀ shared,
      (∀ accepted, view.acceptedWords ⊆ accepted →
        Reports (resultsOf shared policy path extension size { view with acceptedWords := accepted }) span word →
          Reports (resultsOf shared policy path extension size view) span word) ∧
      (Reports (resultsOf shared { policy with exportedOnly := true } path extension size view) span word →
        Reports (resultsOf shared policy path extension size view) span word) ∧
      (Reports (resultsOf shared { policy with comments := false } path extension size view) span word →
        Reports (resultsOf shared policy path extension size view) span word) ∧
      (Reports (resultsOf shared policy path extension size view) span word →
        normalForm word ∉ (shared.extended view.acceptedWords).words) := by
  simp only [reports_resultsOf_iff]
  have same := List.Subset.refl view.acceptedWords
  refine ⟨?_, ?_, ?_, ?_⟩
  · intro shared words found
    have more := shared.words_subset_extended words
    exact found.anti (Dictionary.extended_subset more same) (.refl policy)
  · intro lists words found
    have rebuilt := Dictionary.words_ofWords_append (Dictionary.normal_ofSources lists) words
    have more := Dictionary.words_subset_extended (.ofSources lists) words
    rw [← rebuilt] at more
    exact found.anti (Dictionary.extended_subset more same) (.refl policy)
  · intro lists lists' included found
    have more := Dictionary.ofSources_subset included
    exact found.anti (Dictionary.extended_subset more same) (.refl policy)
  · intro shared
    have unchanged := List.Subset.refl (shared.extended view.acceptedWords).words
    have only : { policy with exportedOnly := true }.Within policy := ⟨rfl, fun _ => rfl, id⟩
    have silent : { policy with comments := false }.Within policy :=
      ⟨rfl, id, fun off => absurd off Bool.false_ne_true⟩
    refine ⟨?_, fun found => found.anti unchanged only, fun found => found.anti unchanged silent,
      fun found => found.normalForm_notMem⟩
    intro accepted included found
    have more := Dictionary.extended_subset (List.Subset.refl shared.words) included
    exact found.anti more (.refl policy)

end

end SpellingCheck

end SpellLint
