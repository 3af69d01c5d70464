import SpellLint.Check.Spelling
import SpellLint.Proofs.Findings.Collected

/-! # What the spelling check reports

The results for a source that can be read. There is one failed result for every span at which a word is unknown, with
all the words that are unknown there; the spans ascend. If no word is unknown anywhere there is one passed result
instead. The order in which the source lists its nodes does not matter.
-/

set_option autoImplicit false

namespace SpellLint

/-! ## From findings to results -/

/-- Findings with ascending words are shown with the words that they have. -/
theorem Diagnostic.ofFinding_eq (location : Span → String) (firstLine : Span → Option String)
    {finding : Span × List String} (h : finding.2.Pairwise (· < ·)) :
    ofFinding location firstLine finding =
      ⟨finding.1, location finding.1, finding.2, messageOf finding.2, firstLine finding.1⟩ := by
  unfold ofFinding
  simp only [toList_foldl_insert h]

theorem Findings.words_ascending_of_mem_ordered {f : Findings} {finding : Span × List String}
    (h : finding ∈ f.ordered) : finding.2.Pairwise (· < ·) := by
  obtain ⟨span, words⟩ := finding
  obtain ⟨-, rfl⟩ := (mem_ordered f span words).mp h
  exact words_ascending _

namespace SpellingCheck

/-- The failed result of a finding. -/
def failure (file : Path) (view : SourceView) (finding : Span × List String) : Result where
  file := file
  check := "spelling"
  severity := .warning
  passed := false
  message := Diagnostic.messageOf finding.2
  details := .record
    [("location", .text (view.location finding.1)), ("words", .texts finding.2),
      ("source_line", ((view.firstLine finding.1).map Value.text).getD .null),
      ("span", .list [.int finding.1.start, .int finding.1.stop])]
  span := some finding.1

/-- The passed result of a source that asks to accept so many words. -/
def success (file : Path) (accepted : Nat) : Result where
  file := file
  check := "spelling"
  severity := .info
  passed := true
  message := "OK: no misspellings"
  details := .record [("extra_words", .int accepted)]
  span := none

/-- The results for a source that can be read. -/
def resultsOf (shared : Dictionary) (policy : Policy) (path : Path) (extension : String) (size : Nat)
    (view : SourceView) : List Result :=
  (run ⟨some shared, policy⟩ ⟨path, extension, size, .readable view⟩).value

theorem dictionaryFor_value (file : Path) (d : Dictionary) (words : List String) :
    (dictionaryFor file d words).value = d.extended words := by
  unfold dictionaryFor
  cases words with
  | nil => rfl
  | cons first rest => simp only [List.isEmpty_cons, Bool.false_eq_true, if_false, Logged.value_bind, Logged.value_pure]

theorem report_render (file : Path) (view : SourceView) (f : Findings) (accepted : Nat) :
    report file accepted (Diagnostic.render view.location view.firstLine f.ordered) =
      if f.ordered = [] then [success file accepted] else f.ordered.map (failure file view) := by
  have shown : (f.ordered.map (Diagnostic.ofFinding view.location view.firstLine)).map (misspelled file) =
      f.ordered.map (failure file view) := by
    rw [List.map_map]
    apply List.map_congr_left
    intro finding member
    have ascending := Findings.words_ascending_of_mem_ordered member
    rw [Function.comp_apply, Diagnostic.ofFinding_eq _ _ ascending]
    rfl
  unfold report Diagnostic.render
  rw [shown, List.isEmpty_map]
  simp only [List.isEmpty_iff]
  rfl

theorem resultsOf_eq (shared : Dictionary) (policy : Policy) (path : Path) (extension : String) (size : Nat)
    (view : SourceView) :
    resultsOf shared policy path extension size view =
      let found := Findings.ofNodes (shared.extended view.acceptedWords) policy view.nodes.value
      if found.ordered = [] then [success path view.acceptedWords.length]
      else found.ordered.map (failure path view) := by
  rw [← dictionaryFor_value path, ← report_render]
  rfl

/-! ## The report -/

/-- The check finds every unknown word of every node that the policy looks at, at the span of the node, and nothing
else. -/
theorem run_reports_found (shared : Dictionary) (policy : Policy) (path : Path) (extension : String) (size : Nat)
    (view : SourceView) :
    ∃ findings : List (Span × List String),
      resultsOf shared policy path extension size view =
        (if findings = [] then [success path view.acceptedWords.length] else findings.map (failure path view)) ∧
      findings.Pairwise (fun a b => a.1.Precedes b.1) ∧
      (∀ span, (∃ words, (span, words) ∈ findings) ↔
        ∃ word, Findings.FoundAt (shared.extended view.acceptedWords) policy view.nodes.value span word) ∧
      (∀ finding ∈ findings, finding.2.Pairwise (· < ·) ∧
        ∀ word, word ∈ finding.2 ↔
          Findings.FoundAt (shared.extended view.acceptedWords) policy view.nodes.value finding.1 word) ∧
      ∀ nodes : Logged (List Node), nodes.value.Perm view.nodes.value →
        resultsOf shared policy path extension size { view with nodes := nodes } =
          resultsOf shared policy path extension size view := by
  let d := shared.extended view.acceptedWords
  let found := Findings.ofNodes d policy view.nodes.value
  have members : ∀ span words, (span, words) ∈ found.ordered ↔
      words ≠ [] ∧ words.Pairwise (· < ·) ∧
        ∀ word, word ∈ words ↔ Findings.FoundAt d policy view.nodes.value span word :=
    Findings.mem_ordered_ofNodes d policy view.nodes.value
  refine ⟨found.ordered, resultsOf_eq shared policy path extension size view, found.ordered_ascending, ?_, ?_, ?_⟩
  · intro span
    constructor
    · rintro ⟨words, member⟩
      obtain ⟨nonempty, -, exact⟩ := (members span words).mp member
      obtain ⟨word, mem⟩ := List.exists_mem_of_ne_nil words nonempty
      exact ⟨word, (exact word).mp mem⟩
    · rintro ⟨word, unknown⟩
      have mem : word ∈ (found.wordsAt span).toList := by
        rw [Std.TreeSet.mem_toList]
        exact (Findings.mem_wordsAt_ofNodes d policy view.nodes.value span word).mpr unknown
      exact ⟨_, (Findings.mem_ordered found span _).mpr ⟨List.ne_nil_of_mem mem, rfl⟩⟩
  · rintro ⟨span, words⟩ member
    obtain ⟨-, ascending, exact⟩ := (members span words).mp member
    exact ⟨ascending, exact⟩
  · intro nodes perm
    have same : (Findings.ofNodes d policy nodes.value).ordered = found.ordered := by
      apply Findings.ordered_congr
      intro span word
      rw [Findings.mem_wordsAt_ofNodes, Findings.mem_wordsAt_ofNodes]
      exact Findings.FoundAt.perm perm span word
    rw [resultsOf_eq, resultsOf_eq]
    change (if (Findings.ofNodes d policy nodes.value).ordered = [] then _ else _) = _
    rw [same]
    rfl

end SpellingCheck

end SpellLint
