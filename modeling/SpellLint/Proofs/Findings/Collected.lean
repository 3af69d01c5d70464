import SpellLint.Proofs.Findings.Order

/-! # What is collected

Which words end up at which span. `FoundAt` says it without a map and without an order of the nodes: some node with
the span is looked at under the policy and has the word among its unknown words. Collecting nodes one by one reaches
exactly these words (`mem_wordsAt_ofNodes`), whatever the order of the nodes and however often a span comes back.
-/

set_option autoImplicit false

namespace SpellLint.Findings

/-- Whether a policy looks at a node: it carries a name, a documentation text or, if comments count, a comment, and
it is visible if only visible nodes count. -/
def Wanted (policy : Policy) (node : Node) : Prop :=
  (node.kind ∈ [.module, .function, .type, .binding, .field, .parameter] ∨ node.kind = .doc ∨
    node.kind = .comment ∧ policy.comments = true) ∧
  (policy.exportedOnly = true → node.exported = true)

/-- Whether a word is unknown in the text of a node that a policy looks at. -/
def UnknownIn (d : Dictionary) (policy : Policy) (node : Node) (word : String) : Prop :=
  Wanted policy node ∧
    ∃ text, node.text = some text ∧ text ≠ "" ∧ word ∈ unknownWords text d policy.possessives

/-- Whether a word is unknown in some node with a span. -/
def FoundAt (d : Dictionary) (policy : Policy) (nodes : List Node) (span : Span) (word : String) : Prop :=
  ∃ node ∈ nodes, node.span = span ∧ UnknownIn d policy node word

/-! ## One node -/

theorem wanted_iff (policy : Policy) (node : Node) :
    Wanted policy node ↔ leftOut policy node = false ∧ looksAt policy node.kind = true := by
  obtain ⟨span, kind, text, exported⟩ := node
  obtain ⟨exportedOnly, possessives, comments⟩ := policy
  cases kind <;> cases exported <;> cases exportedOnly <;> cases comments <;>
    simp [Wanted, leftOut, looksAt, NodeKind.isName]

theorem checkedText_eq_some (policy : Policy) (node : Node) (text : String) :
    checkedText policy node = some text ↔ Wanted policy node ∧ node.text = some text ∧ text ≠ "" := by
  rw [wanted_iff]
  unfold checkedText
  split
  · rename_i h
    simp only [Bool.or_eq_true, Bool.not_eq_true'] at h
    grind
  · rename_i h
    simp only [Bool.or_eq_true, Bool.not_eq_true', not_or, Bool.not_eq_true, Bool.not_eq_false] at h
    simp [h, Option.filter_eq_some_iff]

theorem mem_unknownAt (d : Dictionary) (policy : Policy) (node : Node) (word : String) :
    word ∈ unknownAt d policy node ↔ UnknownIn d policy node word := by
  unfold unknownAt UnknownIn
  cases h : checkedText policy node with
  | none =>
    have never : ∀ text, ¬ (Wanted policy node ∧ node.text = some text ∧ text ≠ "") := by
      intro text wanted
      rw [← checkedText_eq_some, h] at wanted
      simp at wanted
    simp only [List.not_mem_nil, false_iff]
    rintro ⟨wanted, text, carried, blank, -⟩
    exact never text ⟨wanted, carried, blank⟩
  | some text =>
    obtain ⟨wanted, carried, blank⟩ := (checkedText_eq_some policy node text).mp h
    rw [Std.TreeSet.mem_toList]
    constructor
    · intro unknown
      exact ⟨wanted, text, carried, blank, unknown⟩
    · rintro ⟨-, text', carried', -, unknown⟩
      obtain rfl : text = text' := Option.some.inj (carried.symm.trans carried')
      exact unknown

/-! ## One step of collecting -/

theorem mem_wordsAt_merge (f : Findings) (span : Span) (words : List String) (span' : Span) (word : String) :
    word ∈ (f.merge span words).wordsAt span' ↔ word ∈ f.wordsAt span' ∨ span = span' ∧ word ∈ words := by
  unfold merge wordsAt
  simp only [Std.TreeMap.getD_insert, Std.LawfulEqCmp.compare_eq_iff_eq]
  split
  · rename_i same
    subst same
    rw [mem_foldl_insert]
    simp
  · rename_i other
    simp [other]

theorem mem_wordsAt_addNode (d : Dictionary) (policy : Policy) (f : Findings) (node : Node) (span : Span)
    (word : String) :
    word ∈ (addNode d policy f node).wordsAt span ↔
      word ∈ f.wordsAt span ∨ node.span = span ∧ UnknownIn d policy node word := by
  rw [← mem_unknownAt]
  unfold addNode
  cases unknownAt d policy node with
  | nil => simp
  | cons first rest => exact mem_wordsAt_merge f node.span (first :: rest) span word

/-! ## A run over all nodes -/

theorem mem_wordsAt_foldl (d : Dictionary) (policy : Policy) (nodes : List Node) (f : Findings) (span : Span)
    (word : String) :
    word ∈ (nodes.foldl (addNode d policy) f).wordsAt span ↔
      word ∈ f.wordsAt span ∨ FoundAt d policy nodes span word := by
  induction nodes generalizing f with
  | nil => simp [FoundAt]
  | cons node rest ih =>
    rw [List.foldl_cons, ih, mem_wordsAt_addNode]
    simp only [FoundAt, List.mem_cons, exists_eq_or_imp, or_assoc]

theorem mem_wordsAt_ofNodes (d : Dictionary) (policy : Policy) (nodes : List Node) (span : Span) (word : String) :
    word ∈ (ofNodes d policy nodes).wordsAt span ↔ FoundAt d policy nodes span word := by
  have empty : word ∉ none.wordsAt span := by simp [none, wordsAt]
  unfold ofNodes
  rw [mem_wordsAt_foldl]
  exact or_iff_right empty

/-- Nodes may be listed in any order. -/
theorem FoundAt.perm {d : Dictionary} {policy : Policy} {nodes nodes' : List Node} (h : nodes.Perm nodes')
    (span : Span) (word : String) : FoundAt d policy nodes span word ↔ FoundAt d policy nodes' span word := by
  unfold FoundAt
  simp only [h.mem_iff]

/-- A span is listed exactly if a word is found there, and then with exactly these words. -/
theorem mem_ordered_ofNodes (d : Dictionary) (policy : Policy) (nodes : List Node) (span : Span)
    (words : List String) :
    (span, words) ∈ (ofNodes d policy nodes).ordered ↔
      words ≠ [] ∧ words.Pairwise (· < ·) ∧ ∀ word, word ∈ words ↔ FoundAt d policy nodes span word := by
  simp only [mem_ordered, ← mem_wordsAt_ofNodes, and_congr_right_iff]
  intro _
  constructor
  · rintro rfl
    exact ⟨words_ascending _, fun word => Std.TreeSet.mem_toList⟩
  · rintro ⟨ascending, members⟩
    apply (words_ascending _).eq_of_mem_iff ascending
    intro word
    rw [Std.TreeSet.mem_toList, members word]

end SpellLint.Findings
