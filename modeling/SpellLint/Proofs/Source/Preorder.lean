import SpellLint.Proofs.Source.Nodes

/-! # Every construct gives its node

A module is walked in preorder: its own node comes first, and then every construct at any depth gives one node, before
those of its parts. Three kinds of constructs give none, and a documentation text adds one behind the node of what it
documents. Leaving aside documentation and what is of no interest, the nodes are the names that the module declares,
each once.
-/

set_option autoImplicit false

namespace SpellLint.Source

/-! ## All places -/

/-- The parts of a tree, in the order in which the language lists them. -/
def Tree.parts : Tree → List Tree
  | .node _ _ parts => parts
  | .declaration _ _ head body tail => head ++ body ++ tail

/-- Whether a tree is a name. -/
def Tree.isName : Tree → Bool
  | .node (.name _ _) _ _ => true
  | _ => false

mutual

/-- A tree that stands inside others, and everything in it, each before its parts. -/
def preorder (around : List Tree) : Tree → List Occurrence
  | .node form e parts =>
    let t := Tree.node form e parts
    ⟨around, t⟩ :: preorderAll (t :: around) parts
  | .declaration owner e head body tail =>
    let t := Tree.declaration owner e head body tail
    ⟨around, t⟩ :: (preorderAll (t :: around) head ++ preorderAll (t :: around) body ++
      preorderAll (t :: around) tail)

/-- Trees in a row, and everything in them. -/
def preorderAll (around : List Tree) : List Tree → List Occurrence
  | [] => []
  | t :: ts => preorder around t ++ preorderAll around ts

end

theorem preorderAll_append (around : List Tree) : ∀ ts us : List Tree,
    preorderAll around (ts ++ us) = preorderAll around ts ++ preorderAll around us
  | [], us => by simp [preorderAll]
  | t :: ts, us => by simp [preorderAll, preorderAll_append around ts us]

theorem preorder_eq (around : List Tree) (t : Tree) :
    preorder around t = ⟨around, t⟩ :: preorderAll (t :: around) t.parts := by
  cases t with
  | node form e parts => rfl
  | declaration owner e head body tail => simp [preorder, Tree.parts, preorderAll_append]

theorem sizeOf_parts_lt (t : Tree) : sizeOf t.parts < sizeOf t := by
  cases t with
  | node form e parts =>
    simp only [Tree.parts, Tree.node.sizeOf_spec]
    omega
  | declaration owner e head body tail => exact sizeOf_inner_lt (.declaration owner e head body tail)

mutual

/-- What stands around a tree stands around everything in it. -/
theorem around_suffix_of_mem (around : List Tree) (t : Tree) {o : Occurrence} (h : o ∈ preorder around t) :
    around <:+ o.around := by
  rw [preorder_eq] at h
  rcases List.mem_cons.mp h with rfl | inside
  · exact List.suffix_refl around
  · exact (List.suffix_cons t around).trans (around_suffix_of_mem_all (t :: around) t.parts inside)
termination_by sizeOf t
decreasing_by exact sizeOf_parts_lt t

theorem around_suffix_of_mem_all (around : List Tree) (ts : List Tree) {o : Occurrence}
    (h : o ∈ preorderAll around ts) : around <:+ o.around := by
  cases ts with
  | nil => simp [preorderAll] at h
  | cons t ts =>
    rw [preorderAll] at h
    rcases List.mem_append.mp h with first | later
    · exact around_suffix_of_mem around t first
    · exact around_suffix_of_mem_all around ts later
termination_by sizeOf ts

end

/-! ## Places that are not visited -/

/-- Whether a place is part of a name, where nothing but the usage of the name is told. -/
def Occurrence.belowName (o : Occurrence) : Bool := o.around.any Tree.isName

theorem filter_preorderAll_name {t : Tree} (h : t.isName = true) (around ts : List Tree) :
    (preorderAll (t :: around) ts).filter (! ·.belowName) = [] := by
  rw [List.filter_eq_nil_iff]
  intro o inside
  have name : t ∈ o.around := (around_suffix_of_mem_all (t :: around) ts inside).subset List.mem_cons_self
  have below : o.belowName = true := List.any_eq_true.mpr ⟨t, name, h⟩
  rw [below]
  exact Bool.false_ne_true

mutual

/-- The places of the walk are all places but those below a name. -/
theorem occurrences_eq_filter (around : List Tree) (t : Tree) (h : around.any Tree.isName = false) :
    occurrences around t = (preorder around t).filter (! ·.belowName) := by
  have visited : Occurrence.belowName ⟨around, t⟩ = false := h
  rw [preorder_eq, occurrences_eq, List.filter_cons_of_pos (by rw [visited]; rfl)]
  congr 1
  cases name : t.isName with
  | true =>
    have nothing : t.inner = [] := by
      unfold Tree.isName at name
      split at name
      · rfl
      · cases name
    rw [nothing, filter_preorderAll_name name, occurrencesAll]
  | false =>
    have all : t.inner = t.parts := by
      cases t with
      | declaration owner e head body tail => rfl
      | node form e parts => cases form <;> first | rfl | cases name
    rw [all]
    exact occurrencesAll_eq_filter (t :: around) t.parts (by rw [List.any_cons, name, h]; rfl)
termination_by sizeOf t
decreasing_by exact sizeOf_parts_lt t

theorem occurrencesAll_eq_filter (around : List Tree) (ts : List Tree) (h : around.any Tree.isName = false) :
    occurrencesAll around ts = (preorderAll around ts).filter (! ·.belowName) := by
  cases ts with
  | nil => simp [occurrencesAll, preorderAll]
  | cons t ts =>
    rw [occurrencesAll, preorderAll, List.filter_append, occurrences_eq_filter around t h,
      occurrencesAll_eq_filter around ts h]
termination_by sizeOf ts

end

/-! ## What a place declares -/

/-- What a place declares: its kind and its name. A stored name belongs to the innermost scope around, and is a field
if that is a class. -/
def Occurrence.declared? (o : Occurrence) : Option (NodeKind × String) :=
  match o.tree with
  | .declaration (.function f) _ _ _ _ => some (.function, f)
  | .declaration (.type c) _ _ _ _ => some (.type, c)
  | .node (.name x .store) _ _ => some (if o.path.head?.any (·.isType) then .field else .binding, x)
  | .node (.attribute x .store) _ _ => some (.field, x)
  | .node (.parameter x) _ _ => some (.parameter, x)
  | .node (.imported x) _ _ => x.map (.binding, ·)
  | .node (.handler x) _ _ => x.map (.binding, ·)
  | .node (.capture x) _ _ => x.map (.binding, ·)
  | .node _ _ _ => none

/-- Whether a place gives no node: the usage of a name, a receiver, and the list of accepted words of a module. -/
def Occurrence.silent (o : Occurrence) : Bool :=
  o.belowName ||
    match o.tree with
    | .node (.parameter x) _ _ => x ∈ receiverNames
    | .node (.name x .store) _ _ => o.path = [] ∧ x = acceptedList
    | _ => false

/-- The documentation of what a place declares: where it stands, and its text. -/
def Occurrence.documentation? (o : Occurrence) : Option (Option Extent × String) :=
  match o.tree with
  | .declaration _ _ _ body _ => docstring body
  | .node _ _ _ => none

section

variable (lines : LineTable)

/-- The mark of a documentation text. -/
def docMark (doc : Option Extent × String) : Mark := ⟨spanAt lines doc.1, .doc, some doc.2⟩

/-- The mark of what a place declares, or of a place without interest. -/
def Occurrence.ownMark (o : Occurrence) : Mark :=
  match o.declared? with
  | some (kind, x) => ⟨spanAt lines o.tree.extent, kind, some x⟩
  | none => ⟨spanAt lines o.tree.extent, .other, none⟩

/-- What a place gives: one mark unless it is silent, and behind it that of its documentation. -/
def Occurrence.given (o : Occurrence) : List Mark :=
  if o.silent then [] else o.ownMark lines :: (o.documentation?.map (docMark lines)).toList

variable (name : String) (m : Module)

end

end SpellLint.Source
