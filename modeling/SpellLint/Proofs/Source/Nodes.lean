import SpellLint.Proofs.Source.Visibility

/-! # The nodes of a module, place by place

What a place binds or holds is read off its tree, and whether it can be reached is read off its path. The walk gives
exactly these nodes, in the order of the places.
-/

set_option autoImplicit false

namespace SpellLint.Source

/-! ## What a place gives -/

/-- A node, but for its visibility. -/
structure Mark where
  span : Span
  kind : NodeKind
  text : Option String
  deriving DecidableEq, Repr

/-- The node of a mark. -/
def Mark.node (exported : Bool) (k : Mark) : Node := ⟨k.span, k.kind, k.text, exported⟩

/-- The span of a tree; one without a place is at the start of the source. -/
def spanAt (lines : LineTable) (e : Option Extent) : Span := (e.map lines.spanOf).getD .origin

/-- The mark of the documentation of a body, if there is one. -/
def docMarks (lines : LineTable) (body : List Tree) : List Mark :=
  match docstring body with
  | some (e, text) => [⟨spanAt lines e, .doc, some text⟩]
  | none => []

/-- What a place binds or holds. -/
def Occurrence.marks (lines : LineTable) (o : Occurrence) : List Mark :=
  match o.tree with
  | .declaration owner e _ body _ =>
    ⟨spanAt lines e, ownerKind owner, some (ownerName owner)⟩ :: docMarks lines body
  | .node (.name x .store) e _ =>
    if o.path = [] ∧ x = acceptedList then []
    else [⟨spanAt lines e, if o.path.head?.any (·.isType) then .field else .binding, some x⟩]
  | .node (.attribute x .store) e _ => [⟨spanAt lines e, .field, some x⟩]
  | .node (.parameter x) e _ => if x ∈ receiverNames then [] else [⟨spanAt lines e, .parameter, some x⟩]
  | .node (.imported (some x)) e _ => [⟨spanAt lines e, .binding, some x⟩]
  | .node (.handler (some x)) e _ => [⟨spanAt lines e, .binding, some x⟩]
  | .node (.capture (some x)) e _ => [⟨spanAt lines e, .binding, some x⟩]
  | .node _ e _ => [⟨spanAt lines e, .other, none⟩]

/-- A name that a tree binds, by the rule that decides whether it can be reached. -/
inductive Bound where
  | name (x : String)
  | attribute (x : String)
  | parameter (x : String)
  deriving DecidableEq, Repr

/-- The name that a tree binds, if it binds one. -/
def Tree.bound? : Tree → Option Bound
  | .declaration owner _ _ _ _ => some (.name (ownerName owner))
  | .node (.name x .store) _ _ => some (.name x)
  | .node (.attribute x .store) _ _ => some (.attribute x)
  | .node (.parameter x) _ _ => some (.parameter x)
  | .node (.imported x) _ _ => x.map .name
  | .node (.handler x) _ _ => x.map .name
  | .node (.capture x) _ _ => x.map .name
  | .node _ _ _ => none

/-- A bound name that can be reached from outside the module. -/
def Bound.Exported (name : String) (m : Module) (path : List Enclosing) : Bound → Prop
  | .name x => NameExported name m path x
  | .attribute x => AttributeExported name m path x
  | .parameter _ => ParameterExported name m path

instance (name : String) (m : Module) (path : List Enclosing) : DecidablePred (Bound.Exported name m path)
  | .name x => inferInstanceAs (Decidable (NameExported name m path x))
  | .attribute x => inferInstanceAs (Decidable (AttributeExported name m path x))
  | .parameter _ => inferInstanceAs (Decidable (ParameterExported name m path))

/-- A place that binds a name which can be reached; a documentation text is reached with what it documents. -/
def Occurrence.Exported (name : String) (m : Module) (o : Occurrence) : Prop :=
  ∃ b ∈ o.tree.bound?, b.Exported name m o.path

instance (name : String) (m : Module) (o : Occurrence) : Decidable (o.Exported name m) :=
  inferInstanceAs (Decidable (∃ b ∈ o.tree.bound?, b.Exported name m o.path))

section

variable (lines : LineTable) (name : String) (m : Module)

/-- The nodes that a place gives. -/
def nodesAt (o : Occurrence) : List Node :=
  (o.marks lines).map (Mark.node (decide (o.Exported name m)))

/-- The nodes that a module gives itself. -/
def headNodes : List Node :=
  (⟨.origin, .module, some name⟩ :: docMarks lines m.body).map (Mark.node (decide (Public name)))

theorem nodesAt_of_bound {o : Occurrence} {b : Bound} (h : o.tree.bound? = some b) :
    nodesAt lines name m o = (o.marks lines).map (Mark.node (decide (b.Exported name m o.path))) := by
  have exported : o.Exported name m ↔ b.Exported name m o.path := by simp [Occurrence.Exported, h]
  rw [nodesAt, decide_eq_decide.mpr exported]

/-! ## The walk -/

theorem docNodes_eq (v : Visit) (exported : Bool) (body : List Tree) :
    docNodes v exported body = (docMarks v.lines body).map (Mark.node exported) := by
  unfold docNodes docMarks
  cases docstring body <;> rfl

theorem ownerNodes_visitAt (around : List Tree) (owner : Owner) (e : Option Extent) (head body tail : List Tree) :
    ownerNodes (visitAt lines name m (pathOf around)) owner e body =
      nodesAt lines name m ⟨around, .declaration owner e head body tail⟩ := by
  refine Eq.trans ?_ (nodesAt_of_bound lines name m rfl).symm
  rw [ownerNodes, docNodes_eq, exports_visitAt]
  rfl

/-- A construct that is no declaration gives one node at most; only a stored name can be one of two kinds. -/
theorem ownNode_visitAt (around : List Tree) (form : Form) (e : Option Extent) (parts : List Tree) :
    ownNode (visitAt lines name m (pathOf around)) form e =
      nodesAt lines name m ⟨around, .node form e parts⟩ := by
  match form with
  | .name x .store =>
    refine Eq.trans ?_ (nodesAt_of_bound lines name m rfl).symm
    rw [ownNode, exports_visitAt, isDirectlyIn_module_visitAt, isDirectlyIn_type_visitAt]
    by_cases accepted : pathOf around = [] ∧ x = acceptedList
    · have nothing : Occurrence.marks lines ⟨around, .node (.name x .store) e parts⟩ = [] := if_pos accepted
      rw [nothing, if_pos (by simpa using accepted)]
      rfl
    · have alone : Occurrence.marks lines ⟨around, .node (.name x .store) e parts⟩ = [_] := if_neg accepted
      rw [alone, if_neg (by simpa using accepted)]
      rfl
  | .attribute x .store =>
    refine Eq.trans ?_ (nodesAt_of_bound lines name m rfl).symm
    rw [ownNode, exportsAttribute_visitAt]
    rfl
  | .parameter x =>
    refine Eq.trans ?_ (nodesAt_of_bound lines name m rfl).symm
    rw [ownNode, exportsParameter_visitAt]
    by_cases receiver : x ∈ receiverNames
    · have nothing : Occurrence.marks lines ⟨around, .node (.parameter x) e parts⟩ = [] := if_pos receiver
      rw [nothing, if_pos (by simpa using receiver)]
      rfl
    · have alone : Occurrence.marks lines ⟨around, .node (.parameter x) e parts⟩ = [_] := if_neg receiver
      rw [alone, if_neg (by simpa using receiver)]
      rfl
  | .imported (some x) | .handler (some x) | .capture (some x) =>
    refine Eq.trans ?_ (nodesAt_of_bound lines name m rfl).symm
    rw [ownNode, Visit.binding, exports_visitAt]
    rfl
  | .imported none | .handler none | .capture none => rfl
  | .name _ .load | .name _ .delete | .attribute _ .load | .attribute _ .delete => rfl
  | .plain | .usage _ | .subscript _ | .starred _ | .list _ | .tuple _ | .literal _ => rfl
  | .statement | .assign | .annotatedAssign _ | .augmentedAssign _ | .lambda | .comprehension => rfl

theorem nodesOfAll_append (v : Visit) : ∀ ts us : List Tree,
    nodesOfAll v (ts ++ us) = nodesOfAll v ts ++ nodesOfAll v us
  | [], us => by simp [nodesOfAll]
  | t :: ts, us => by simp [nodesOfAll, nodesOfAll_append v ts us]

/-- One step of the walk: the nodes of a place, and then the walk of what is inside. -/
theorem nodesOf_step (around : List Tree) (t : Tree) :
    nodesOf (visitAt lines name m (pathOf around)) t =
      nodesAt lines name m ⟨around, t⟩ ++ nodesOfAll (visitAt lines name m (pathOf (t :: around))) t.inner := by
  cases t with
  | node form e parts =>
    rw [← ownNode_visitAt, ← partsVisit_visitAt]
    cases form <;> simp [nodesOf, Tree.inner, nodesOfAll]
  | declaration owner e head body tail =>
    have inside : pathOf (.declaration owner e head body tail :: around) = .ofOwner owner :: pathOf around := rfl
    rw [← ownerNodes_visitAt, inside, ← within_visitAt]
    simp [nodesOf, Tree.inner, nodesOfAll_append]

mutual

/-- The walk of a tree gives the nodes of its places, one after the other. -/
theorem nodesOf_visitAt (around : List Tree) (t : Tree) :
    nodesOf (visitAt lines name m (pathOf around)) t = (occurrences around t).flatMap (nodesAt lines name m) := by
  have inside := nodesOfAll_visitAt (t :: around) t.inner
  rw [nodesOf_step, occurrences_eq, List.flatMap_cons, inside]
termination_by sizeOf t
decreasing_by exact sizeOf_inner_lt t

/-- The walk of trees in a row. -/
theorem nodesOfAll_visitAt (around : List Tree) : ∀ ts : List Tree,
    nodesOfAll (visitAt lines name m (pathOf around)) ts =
      (occurrencesAll around ts).flatMap (nodesAt lines name m)
  | [] => by simp [nodesOfAll, occurrencesAll]
  | t :: ts => by
    rw [nodesOfAll, occurrencesAll, List.flatMap_append, nodesOf_visitAt around t, nodesOfAll_visitAt around ts]
termination_by ts => sizeOf ts

end

/-- The nodes of a module: its own, and then those of every place. -/
theorem moduleNodes_eq :
    moduleNodes lines name m =
      headNodes lines name m ++ (occurrencesAll [] m.body).flatMap (nodesAt lines name m) := by
  have walked := nodesOfAll_visitAt lines name m [] m.body
  rw [← walked, moduleNodes, headNodes, docNodes_eq, isPublic_eq]
  rfl

/-! ## Visibility by kind -/

/-- The trees that a mark of a kind belongs to, and the name that they bind. -/
def Mark.Of (t : Tree) (k : Mark) : Prop :=
  match k.kind with
  | .function | .type | .binding => ∃ x, k.text = some x ∧ t.bound? = some (.name x)
  | .field => ∃ x, k.text = some x ∧ (t.bound? = some (.name x) ∨ t.bound? = some (.attribute x))
  | .parameter => ∃ x, k.text = some x ∧ t.bound? = some (.parameter x)
  | .doc => ∃ owner e head body tail, t = .declaration owner e head body tail
  | .other => t.bound? = none
  | .module | .comment => False

theorem of_mem_marks {o : Occurrence} {k : Mark} (h : k ∈ o.marks lines) : k.Of o.tree := by
  obtain ⟨around, t⟩ := o
  match t with
  | .declaration owner e head body tail =>
    rcases List.mem_cons.mp h with rfl | doc
    · cases owner <;> exact ⟨_, rfl, rfl⟩
    · have documented : k.kind = .doc := by
        unfold docMarks at doc
        split at doc <;> simp at doc
        rw [doc]
      simp [Mark.Of, documented]
  | .node (.name x .store) e parts =>
    have h : k ∈ if pathOf around = [] ∧ x = acceptedList then [] else [_] := h
    obtain ⟨_, alone⟩ := List.mem_ite_nil_left.mp h
    rw [List.mem_singleton.mp alone]
    split
    · exact ⟨x, rfl, .inl rfl⟩
    · exact ⟨x, rfl, rfl⟩
  | .node (.attribute x .store) e parts =>
    obtain rfl := List.mem_singleton.mp h
    exact ⟨x, rfl, .inr rfl⟩
  | .node (.parameter x) e parts =>
    have h : k ∈ if x ∈ receiverNames then [] else [_] := h
    obtain ⟨_, alone⟩ := List.mem_ite_nil_left.mp h
    rw [List.mem_singleton.mp alone]
    exact ⟨x, rfl, rfl⟩
  | .node (.imported (some x)) _ _ | .node (.handler (some x)) _ _ | .node (.capture (some x)) _ _ =>
    obtain rfl := List.mem_singleton.mp h
    exact ⟨x, rfl, rfl⟩
  | .node (.imported none) _ _ | .node (.handler none) _ _ | .node (.capture none) _ _
  | .node (.name _ .load) _ _ | .node (.name _ .delete) _ _
  | .node (.attribute _ .load) _ _ | .node (.attribute _ .delete) _ _
  | .node .plain _ _ | .node (.usage _) _ _ | .node (.subscript _) _ _ | .node (.starred _) _ _
  | .node (.list _) _ _ | .node (.tuple _) _ _ | .node (.literal _) _ _ | .node .statement _ _
  | .node .assign _ _ | .node (.annotatedAssign _) _ _ | .node (.augmentedAssign _) _ _
  | .node .lambda _ _ | .node .comprehension _ _ =>
    obtain rfl := List.mem_singleton.mp h
    rfl

/-- Whether a node is exported, told by its kind and the path of its place. -/
def VisibleByPath (o : Occurrence) (n : Node) : Prop :=
  match n.kind with
  | .function | .type | .binding =>
    ∃ x, n.text = some x ∧ (n.exported = true ↔ NameExported name m o.path x)
  | .field =>
    ∃ x, n.text = some x ∧ (o.tree.bound? = some (.attribute x) ∨
      (n.exported = true ↔ NameExported name m o.path x))
  | .parameter => n.exported = true ↔ ParameterExported name m o.path
  | .doc =>
    ∃ owner e head body tail, o.tree = .declaration owner e head body tail ∧
      (n.exported = true ↔ NameExported name m o.path (ownerName owner))
  | .other => n.exported = false
  | .module | .comment => False

theorem visibleByPath_of_mem {o : Occurrence} {n : Node} (h : n ∈ nodesAt lines name m o) :
    VisibleByPath name m o n := by
  obtain ⟨⟨span, kind, text⟩, hk, rfl⟩ := List.mem_map.mp h
  have marked := of_mem_marks lines hk
  have flag {b : Bound} (hb : o.tree.bound? = some b) :
      decide (o.Exported name m) = true ↔ b.Exported name m o.path := by
    simp [Occurrence.Exported, hb]
  match kind with
  | .function | .type | .binding =>
    obtain ⟨x, hx, hb⟩ := marked
    exact ⟨x, hx, flag hb⟩
  | .field =>
    obtain ⟨x, hx, hb | hb⟩ := marked
    · exact ⟨x, hx, .inr (flag hb)⟩
    · exact ⟨x, hx, .inl hb⟩
  | .parameter =>
    obtain ⟨x, _, hb⟩ := marked
    exact flag hb
  | .doc =>
    obtain ⟨owner, e, head, body, tail, tree⟩ := marked
    exact ⟨owner, e, head, body, tail, tree, flag (b := .name (ownerName owner)) (by rw [tree]; rfl)⟩
  | .other =>
    have unbound : o.tree.bound? = none := marked
    simp [VisibleByPath, Mark.node, Occurrence.Exported, unbound]
  | .module | .comment => exact marked

end

end SpellLint.Source
