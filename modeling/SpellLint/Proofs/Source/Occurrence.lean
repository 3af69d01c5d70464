import SpellLint.Source.Walk

/-! # Constructs in their place

A construct in its place comes with the trees around it. The places of a tree are listed in the order of the walk,
each before those of its parts. Of the trees around a place only a few open a scope for the names inside; these
are the path of the place.
-/

set_option autoImplicit false

namespace SpellLint.Source

/-! ## Places -/

/-- The parts of a tree that can hold a place: a name has none, for what is below it only tells its usage. -/
def Tree.inner : Tree → List Tree
  | .node (.name _ _) _ _ => []
  | .node _ _ parts => parts
  | .declaration _ _ head body tail => head ++ body ++ tail

theorem sizeOf_append (ts us : List Tree) : sizeOf (ts ++ us) + 1 = sizeOf ts + sizeOf us := by
  induction ts with
  | nil =>
    simp only [List.nil_append, List.nil.sizeOf_spec]
    omega
  | cons t ts ih =>
    simp only [List.cons_append, List.cons.sizeOf_spec]
    omega

/-- What a tree holds is smaller than the tree. -/
theorem sizeOf_inner_lt (t : Tree) : sizeOf t.inner < sizeOf t := by
  cases t with
  | declaration owner e head body tail =>
    have first := sizeOf_append (head ++ body) tail
    have second := sizeOf_append head body
    simp only [Tree.inner, Tree.declaration.sizeOf_spec]
    omega
  | node form e parts =>
    have smaller : sizeOf (Tree.node form e parts).inner ≤ sizeOf parts := by
      cases form with
      | name x u =>
        change sizeOf ([] : List Tree) ≤ sizeOf parts
        cases parts with
        | nil => exact Nat.le_refl _
        | cons t ts =>
          simp only [List.nil.sizeOf_spec, List.cons.sizeOf_spec]
          omega
      | _ => exact Nat.le_refl _
    simp only [Tree.node.sizeOf_spec]
    omega

/-- A tree, and those around it, innermost first. -/
structure Occurrence where
  around : List Tree
  tree : Tree

mutual

/-- The places in a tree that stands inside others. -/
def occurrences (around : List Tree) : Tree → List Occurrence
  | .node form e parts =>
    let t := Tree.node form e parts
    ⟨around, t⟩ ::
      match form with
      | .name _ _ => []
      | _ => occurrencesAll (t :: around) parts
  | .declaration owner e head body tail =>
    let t := Tree.declaration owner e head body tail
    ⟨around, t⟩ :: (occurrencesAll (t :: around) head ++ occurrencesAll (t :: around) body ++
      occurrencesAll (t :: around) tail)

/-- The places in trees in a row. -/
def occurrencesAll (around : List Tree) : List Tree → List Occurrence
  | [] => []
  | t :: ts => occurrences around t ++ occurrencesAll around ts

end

theorem occurrencesAll_append (around : List Tree) : ∀ ts us : List Tree,
    occurrencesAll around (ts ++ us) = occurrencesAll around ts ++ occurrencesAll around us
  | [], us => by simp [occurrencesAll]
  | t :: ts, us => by simp [occurrencesAll, occurrencesAll_append around ts us]

/-- A tree comes before all places inside of it. -/
theorem occurrences_eq (around : List Tree) (t : Tree) :
    occurrences around t = ⟨around, t⟩ :: occurrencesAll (t :: around) t.inner := by
  cases t with
  | declaration owner e head body tail => simp [occurrences, Tree.inner, occurrencesAll_append]
  | node form e parts => cases form <;> simp [occurrences, Tree.inner, occurrencesAll]

/-! ## Paths -/

/-- What opens a scope for the names inside. -/
inductive Enclosing where
  | type (name : String)
  | function (name : String)
  /-- A function without a name, or a comprehension. -/
  | anonymous
  deriving DecidableEq, Repr

namespace Enclosing

/-- The name of what opens a scope. -/
def name? : Enclosing → Option String
  | type name => some name
  | function name => some name
  | anonymous => none

/-- Whether it is a class. -/
def isType : Enclosing → Bool
  | type _ => true
  | _ => false

/-- The scope that a declaration opens. -/
def ofOwner : Owner → Enclosing
  | .type name => type name
  | .function name => function name

end Enclosing

/-- The scope that a tree opens, if it opens one. -/
def Tree.enclosing? : Tree → Option Enclosing
  | .declaration owner _ _ _ _ => some (.ofOwner owner)
  | .node .lambda _ _ => some .anonymous
  | .node .comprehension _ _ => some .anonymous
  | .node _ _ _ => none

/-- The scopes that some trees open. -/
def pathOf (around : List Tree) : List Enclosing := around.filterMap Tree.enclosing?

/-- The scopes around a place, innermost first. -/
def Occurrence.path (o : Occurrence) : List Enclosing := pathOf o.around

end SpellLint.Source
