import SpellLint.Proofs.Source.Nodes

/-! # Exported attributes

An attribute is exported with the innermost class around it. The functions between the class and the place of the
attribute are passed over, and so are their names: that no exported attribute has a private name on its path is
true of a module if and only if none of these functions is private.
-/

set_option autoImplicit false

namespace SpellLint.Source

/-- A path without a private name, of a name that is not private either. -/
def PathPublic (path : List Enclosing) (x : String) : Prop :=
  Public x ∧ ∀ y ∈ path.filterMap Enclosing.name?, Public y

/-- The functions between a place and the innermost class around. -/
def innerFunctions (path : List Enclosing) : List String :=
  (path.takeWhile (! ·.isType)).filterMap Enclosing.name?

theorem Enclosing.PublicType.public {s : Enclosing} {y : String} (h : s.PublicType) (hy : s.name? = some y) :
    Public y := by
  cases s with
  | type c =>
    obtain rfl := Option.some.inj hy
    exact h
  | function f => exact h.elim
  | anonymous => exact h.elim

section

variable (lines : LineTable) (name : String) (m : Module)

/-- All names from the innermost class outwards are public, and only those of the functions below it are left. -/
theorem pathPublic_iff {path : List Enclosing} {x : String} (h : AttributeExported name m path x) :
    PathPublic path x ↔ ∀ f ∈ innerFunctions path, Public f := by
  have split : path.filterMap Enclosing.name? =
      innerFunctions path ++ (path.dropWhile (! ·.isType)).filterMap Enclosing.name? := by
    rw [innerFunctions, ← List.filterMap_append, List.takeWhile_append_dropWhile]
  unfold AttributeExported at h
  cases rest : path.dropWhile (! ·.isType) with
  | nil =>
    rw [rest] at h
    exact h.elim
  | cons s outer =>
    rw [rest] at h split
    cases s with
    | function f => exact h.elim
    | anonymous => exact h.elim
    | type c =>
      obtain ⟨exported, member⟩ := h
      have outside : ∀ y ∈ (Enclosing.type c :: outer).filterMap Enclosing.name?, Public y := by
        intro y hy
        obtain ⟨s, hs, named⟩ := List.mem_filterMap.mp hy
        rcases List.mem_cons.mp hs with rfl | hs
        · obtain rfl := Option.some.inj named
          exact exported.self
        · exact (exported.types s hs).public named
      rw [PathPublic, split, List.forall_mem_append]
      constructor
      · intro ⟨_, inner, _⟩
        exact inner
      · intro inner
        exact ⟨member, inner, outside⟩

/-- No exported attribute of a module has a private name on its path. -/
def AttributesPublic : Prop :=
  ∀ o ∈ occurrencesAll [] m.body, ∀ x, o.tree.bound? = some (.attribute x) →
    ∀ n ∈ nodesAt lines name m o, n.exported = true → PathPublic o.path x

theorem eq_of_bound_attribute {t : Tree} {x : String} (h : t.bound? = some (.attribute x)) :
    ∃ e parts, t = .node (.attribute x .store) e parts := by
  unfold Tree.bound? at h
  split at h
  · cases h
  · cases h
  · obtain rfl := Bound.attribute.inj (Option.some.inj h)
    exact ⟨_, _, rfl⟩
  · cases h
  · simp at h
  · simp at h
  · simp at h
  · cases h

theorem nodesAt_of_attribute {o : Occurrence} {x : String} (h : o.tree.bound? = some (.attribute x)) :
    nodesAt lines name m o =
      [⟨spanAt lines o.tree.extent, .field, some x, decide (AttributeExported name m o.path x)⟩] := by
  rw [nodesAt_of_bound lines name m h]
  obtain ⟨around, t⟩ := o
  obtain ⟨e, parts, rfl⟩ := eq_of_bound_attribute h
  rfl

/-- Nothing but a private function below the innermost class can stand around an exported attribute. -/
theorem attributes_public_iff :
    moduleNodes lines name m =
        headNodes lines name m ++ (occurrencesAll [] m.body).flatMap (nodesAt lines name m) ∧
      (∀ o x, o.tree.bound? = some (.attribute x) → nodesAt lines name m o =
        [⟨spanAt lines o.tree.extent, .field, some x, decide (AttributeExported name m o.path x)⟩]) ∧
      (AttributesPublic lines name m ↔
        ∀ o ∈ occurrencesAll [] m.body, ∀ x, o.tree.bound? = some (.attribute x) →
          AttributeExported name m o.path x → ∀ f ∈ innerFunctions o.path, Public f) := by
  refine ⟨moduleNodes_eq lines name m, fun o x => nodesAt_of_attribute lines name m, ?_⟩
  constructor
  · intro keeps o ho x hx exported
    have shown := keeps o ho x hx
    rw [nodesAt_of_attribute lines name m hx] at shown
    have isPublic := shown _ List.mem_cons_self (decide_eq_true exported)
    exact (pathPublic_iff name m exported).mp isPublic
  · intro inner o ho x hx n hn flag
    rw [nodesAt_of_attribute lines name m hx, List.mem_singleton] at hn
    have exported : AttributeExported name m o.path x := by
      rw [hn] at flag
      exact of_decide_eq_true flag
    exact (pathPublic_iff name m exported).mpr (inner o ho x hx exported)

end

/-! ## A private method -/

/-- A class with a private method that stores an attribute. -/
def hiddenMethod : String := "class C:\n    def _m(self):\n        self.x = 1\n"

/-- Its syntax. -/
def hiddenMethodTree : Module where
  body :=
    [.declaration (.type "C") (some ⟨1, some 0, some 3, some 18⟩) []
      [.declaration (.function "_m") (some ⟨2, some 4, some 3, some 18⟩)
        [.unplaced [.node (.parameter "self") (some ⟨2, some 11, some 2, some 15⟩) []]]
        [.node .assign (some ⟨3, some 8, some 3, some 18⟩)
          [.node (.attribute "x" .store) (some ⟨3, some 8, some 3, some 14⟩)
            [.ofName "self" .load (some ⟨3, some 8, some 3, some 12⟩), .ofUsage .store],
           .node (.literal (.number false)) (some ⟨3, some 17, some 3, some 18⟩) []]]
        []]
      []]

theorem hidden_method_store :
    ∃ o ∈ occurrencesAll [] hiddenMethodTree.body, o.tree.bound? = some (.attribute "x") ∧
      o.path = [.function "_m", .type "C"] ∧
      spanAt (.ofChars hiddenMethod.toList) o.tree.extent = ⟨35, 41⟩ := by
  have long : 5 < (occurrencesAll [] hiddenMethodTree.body).length := by decide
  have span : spanAt (.ofChars hiddenMethod.toList) (some ⟨3, some 8, some 3, some 14⟩) = ⟨35, 41⟩ := by
    decide +kernel
  exact ⟨_, List.get_mem _ ⟨5, long⟩, rfl, rfl, span⟩

theorem hidden_method_shows_attribute :
    ⟨⟨35, 41⟩, .field, some "x", true⟩ ∈ moduleNodes (.ofChars hiddenMethod.toList) "mod" hiddenMethodTree ∧
      ¬ AttributesPublic (.ofChars hiddenMethod.toList) "mod" hiddenMethodTree := by
  obtain ⟨o, ho, store, path, span⟩ := hidden_method_store
  have exported : AttributeExported "mod" hiddenMethodTree [.function "_m", .type "C"] "x" := by decide
  have nodes := nodesAt_of_attribute (.ofChars hiddenMethod.toList) "mod" hiddenMethodTree store
  rw [path, span, decide_eq_true exported] at nodes
  have shown : ⟨⟨35, 41⟩, .field, some "x", true⟩ ∈
      nodesAt (.ofChars hiddenMethod.toList) "mod" hiddenMethodTree o := by
    rw [nodes]
    exact List.mem_singleton_self _
  constructor
  · rw [moduleNodes_eq, List.mem_append, List.mem_flatMap]
    exact .inr ⟨o, ho, shown⟩
  · intro keeps
    have isPublic := keeps o ho "x" store _ shown rfl
    rw [path] at isPublic
    have method : Public "_m" := isPublic.2 "_m" List.mem_cons_self
    exact absurd method (by decide)

end SpellLint.Source
