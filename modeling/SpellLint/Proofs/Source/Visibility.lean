import SpellLint.Proofs.Source.Occurrence

/-! # Visibility by path

Whether a name can be reached from outside is a fact about its path: the names of the module and of the classes
around it must all be public, no function may stand in between, and a module that lists its exported names must list
the outermost one. The walk knows this path only by flags on a stack of scopes; `stackAt` tells the stack that belongs
to a path, and every step of the walk keeps to it.
-/

set_option autoImplicit false

namespace SpellLint.Source

/-! ## What can be reached from outside -/

/-- A name that does not start with an underscore, or that starts and ends with two. -/
def Public (name : String) : Prop :=
  ¬ "_".toList <+: name.toList ∨ ("__".toList <+: name.toList ∧ "__".toList <:+ name.toList)

instance (name : String) : Decidable (Public name) := inferInstanceAs (Decidable (_ ∨ _))

/-- A class with a public name. -/
def Enclosing.PublicType : Enclosing → Prop
  | type c => Public c
  | _ => False

instance : DecidablePred Enclosing.PublicType
  | .type c => inferInstanceAs (Decidable (Public c))
  | .function _ => isFalse id
  | .anonymous => isFalse id

/-- The name that stands for a name in its module: that of the outermost scope around, or itself if there is none. -/
def topName (path : List Enclosing) (x : String) : String :=
  (path.filterMap Enclosing.name?).getLast?.getD x

/-- A name that can be reached from outside the module. -/
structure NameExported (name : String) (m : Module) (path : List Enclosing) (x : String) : Prop where
  module : Public name
  types : ∀ s ∈ path, s.PublicType
  self : Public x
  listed : ∀ names, exportedNames m.body = some names → topName path x ∈ names

/-- A parameter belongs to a function with a name that can be reached. -/
def ParameterExported (name : String) (m : Module) : List Enclosing → Prop
  | .function f :: outer => NameExported name m outer f
  | _ => False

/-- A public name in a class that can be reached. -/
def MemberExported (name : String) (m : Module) : List Enclosing → String → Prop
  | .type c :: outer, x => NameExported name m outer c ∧ Public x
  | _, _ => False

/-- An attribute belongs to the innermost class around, whatever functions stand in between. -/
def AttributeExported (name : String) (m : Module) (path : List Enclosing) (x : String) : Prop :=
  MemberExported name m (path.dropWhile (! ·.isType)) x

theorem nameExported_iff (name : String) (m : Module) (path : List Enclosing) (x : String) :
    NameExported name m path x ↔ Public name ∧ (∀ s ∈ path, s.PublicType) ∧ Public x ∧
      (exportedNames m.body).all (·.contains (topName path x)) = true := by
  constructor
  · intro ⟨module, types, self, listed⟩
    refine ⟨module, types, self, ?_⟩
    cases h : exportedNames m.body with
    | none => rfl
    | some names => simpa using listed names h
  · intro ⟨module, types, self, listed⟩
    refine ⟨module, types, self, fun names h => ?_⟩
    simpa [h] using listed

instance (name : String) (m : Module) (path : List Enclosing) (x : String) :
    Decidable (NameExported name m path x) :=
  decidable_of_iff _ (nameExported_iff name m path x).symm

instance (name : String) (m : Module) : DecidablePred (ParameterExported name m)
  | [] | .type _ :: _ | .anonymous :: _ => isFalse id
  | .function f :: outer => inferInstanceAs (Decidable (NameExported name m outer f))

instance (name : String) (m : Module) (x : String) : (path : List Enclosing) →
    Decidable (MemberExported name m path x)
  | .type c :: outer => inferInstanceAs (Decidable (NameExported name m outer c ∧ Public x))
  | [] | .function _ :: _ | .anonymous :: _ => isFalse id

instance (name : String) (m : Module) (path : List Enclosing) (x : String) :
    Decidable (AttributeExported name m path x) :=
  inferInstanceAs (Decidable (MemberExported _ _ _ _))

theorem isPublic_eq (x : String) : isPublic x = decide (Public x) := by
  rw [Bool.eq_iff_iff, decide_eq_true_iff]
  simp only [isPublic, Public, Bool.or_eq_true, Bool.and_eq_true, Bool.not_eq_true', Bool.eq_false_iff, ne_eq,
    List.isPrefixOf_iff_prefix, List.isSuffixOf_iff_suffix]
  exact or_comm

theorem topName_type_cons (c : String) (outer : List Enclosing) (x : String) :
    topName (.type c :: outer) x = topName outer c := by
  simp [topName, Enclosing.name?, List.getLast?_cons]

/-! ## The stack of a path -/

section

variable (lines : LineTable) (name : String) (m : Module)

/-- The scopes that are open at a path. -/
def stackAt : List Enclosing → List Scope
  | [] => [⟨.module, decide (Public name)⟩]
  | .type c :: outer => ⟨.type, decide (NameExported name m outer c)⟩ :: stackAt outer
  | .function f :: outer => ⟨.function, decide (NameExported name m outer f)⟩ :: stackAt outer
  | .anonymous :: outer => ⟨.function, false⟩ :: stackAt outer

/-- The visit of the places at a path. -/
def visitAt (path : List Enclosing) : Visit := ⟨lines, exportedNames m.body, stackAt name m path⟩

theorem nameExported_nil (x : String) :
    NameExported name m [] x ↔
      Public name ∧ Public x ∧ (exportedNames m.body).all (·.contains x) = true := by
  rw [nameExported_iff]
  simp [topName]

theorem nameExported_type_cons (c : String) (outer : List Enclosing) (x : String) :
    NameExported name m (.type c :: outer) x ↔ NameExported name m outer c ∧ Public x := by
  rw [nameExported_iff, nameExported_iff, topName_type_cons, List.forall_mem_cons]
  constructor
  · intro ⟨module, ⟨first, types⟩, self, listed⟩
    exact ⟨⟨module, types, first, listed⟩, self⟩
  · intro ⟨⟨module, types, first, listed⟩, self⟩
    exact ⟨module, ⟨first, types⟩, self, listed⟩

theorem not_nameExported_cons {s : Enclosing} (hs : s.isType = false) (outer : List Enclosing) (x : String) :
    ¬ NameExported name m (s :: outer) x := by
  intro exported
  have shown := exported.types s List.mem_cons_self
  cases s with
  | type c => simp [Enclosing.isType] at hs
  | function f => exact shown
  | anonymous => exact shown

theorem exports_visitAt (path : List Enclosing) (x : String) :
    (visitAt lines name m path).exports x = decide (NameExported name m path x) := by
  rw [Bool.eq_iff_iff, decide_eq_true_iff]
  match path with
  | [] =>
    rw [nameExported_nil]
    simp [visitAt, stackAt, Visit.exports, isPublic_eq, and_assoc]
  | .type c :: outer =>
    rw [nameExported_type_cons]
    simp [visitAt, stackAt, Visit.exports, isPublic_eq]
  | .function f :: outer =>
    simp [visitAt, stackAt, Visit.exports, not_nameExported_cons name m (s := .function f) rfl]
  | .anonymous :: outer =>
    simp [visitAt, stackAt, Visit.exports, not_nameExported_cons name m (s := .anonymous) rfl]

theorem exportsParameter_visitAt (path : List Enclosing) :
    (visitAt lines name m path).exportsParameter = decide (ParameterExported name m path) := by
  rw [Bool.eq_iff_iff, decide_eq_true_iff]
  match path with
  | [] | .type _ :: _ | .function _ :: _ | .anonymous :: _ =>
    simp [visitAt, stackAt, Visit.exportsParameter, ParameterExported]

theorem attributeExported_cons {s : Enclosing} (hs : s.isType = false) (outer : List Enclosing) (x : String) :
    AttributeExported name m (s :: outer) x ↔ AttributeExported name m outer x := by
  unfold AttributeExported
  rw [List.dropWhile_cons_of_pos (by rw [hs]; rfl)]

theorem exportsAttribute_visitAt (x : String) (path : List Enclosing) :
    (visitAt lines name m path).exportsAttribute x = decide (AttributeExported name m path x) := by
  rw [Bool.eq_iff_iff, decide_eq_true_iff]
  induction path with
  | nil => simp [visitAt, stackAt, Visit.exportsAttribute, AttributeExported, MemberExported]
  | cons s outer ih =>
    cases s with
    | type c =>
      simp [visitAt, stackAt, Visit.exportsAttribute, AttributeExported, MemberExported, Enclosing.isType, isPublic_eq]
    | function f =>
      rw [attributeExported_cons name m rfl, ← ih]
      simp [visitAt, stackAt, Visit.exportsAttribute]
    | anonymous =>
      rw [attributeExported_cons name m rfl, ← ih]
      simp [visitAt, stackAt, Visit.exportsAttribute]

/-! ## Steps of the walk -/

theorem isDirectlyIn_module_visitAt (path : List Enclosing) :
    (visitAt lines name m path).isDirectlyIn .module = path.isEmpty := by
  match path with
  | [] | .type _ :: _ | .function _ :: _ | .anonymous :: _ => rfl

theorem isDirectlyIn_type_visitAt (path : List Enclosing) :
    (visitAt lines name m path).isDirectlyIn .type = path.head?.any (·.isType) := by
  match path with
  | [] | .type _ :: _ | .function _ :: _ | .anonymous :: _ => rfl

theorem within_visitAt (path : List Enclosing) (owner : Owner) :
    (visitAt lines name m path).within
        ⟨ownerScope owner, (visitAt lines name m path).exports (ownerName owner)⟩ =
      visitAt lines name m (.ofOwner owner :: path) := by
  rw [exports_visitAt]
  cases owner with
  | function f => rfl
  | type c => rfl

theorem partsVisit_visitAt (around : List Tree) (form : Form) (e : Option Extent) (parts : List Tree) :
    partsVisit (visitAt lines name m (pathOf around)) form =
      visitAt lines name m (pathOf (.node form e parts :: around)) := by
  cases form <;> rfl

end

end SpellLint.Source
