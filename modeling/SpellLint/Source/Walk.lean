import SpellLint.Node
import SpellLint.Source.Declared
import SpellLint.Source.Docstring

/-! # The nodes of a tree

Every construct of a source is visited before its parts, and gives a node: a name that it binds, a documentation
text, or nothing of interest. A name is exported if it can be reached from outside its module: no private name
and no function stands around it.
-/

set_option autoImplicit false

namespace SpellLint.Source

/-! ## Visibility -/

/-- A name without a leading underscore, or with two underscores at both ends. -/
def isPublic (name : String) : Bool :=
  let cs := name.toList
  ("__".toList.isPrefixOf cs && "__".toList.isSuffixOf cs) || !("_".toList.isPrefixOf cs)

/-- What opens a scope. -/
inductive ScopeKind where
  | module
  | type
  | function
  deriving DecidableEq, Repr

/-- A scope, and whether it can be reached from outside. -/
structure Scope where
  kind : ScopeKind
  exported : Bool
  deriving DecidableEq, Repr

/-- What a visit depends on: the lines of the source, the names that the module lists as exported, and the open
scopes, innermost first. -/
structure Visit where
  lines : LineTable
  listed : Option (List String)
  scopes : List Scope

namespace Visit

/-- The visit of the parts of a scope. -/
def within (v : Visit) (s : Scope) : Visit := { v with scopes := s :: v.scopes }

/-- Whether a name bound here is exported. -/
def exports (v : Visit) (name : String) : Bool :=
  match v.scopes with
  | [] => false
  | s :: _ =>
    s.kind ≠ .function && s.exported && isPublic name &&
      (s.kind ≠ .module || v.listed.all (·.contains name))

/-- Whether an attribute bound here is exported: it belongs to the innermost class around. -/
def exportsAttribute (v : Visit) (name : String) : Bool :=
  match v.scopes.find? (·.kind = .type) with
  | some s => s.exported && isPublic name
  | none => false

/-- Whether a parameter here is exported. -/
def exportsParameter (v : Visit) : Bool :=
  match v.scopes with
  | s :: _ => s.kind = .function && s.exported
  | [] => false

/-- Whether the innermost scope is of a kind. -/
def isDirectlyIn (v : Visit) (k : ScopeKind) : Bool :=
  v.scopes.head?.any (·.kind = k)

/-- The span of a construct; one without a place is at the start of the source. -/
def spanOf (v : Visit) (e : Option Extent) : Span :=
  (e.map v.lines.spanOf).getD .origin

/-- A node without interest. -/
def other (v : Visit) (e : Option Extent) : Node := ⟨v.spanOf e, .other, none, false⟩

/-- A name, or nothing of interest if there is none. -/
def binding (v : Visit) (e : Option Extent) : Option String → Node
  | some name => ⟨v.spanOf e, .binding, some name, v.exports name⟩
  | none => v.other e

end Visit

/-! ## Nodes -/

/-- The names by which methods refer to their own object, which nobody chooses. -/
def receiverNames : List String := ["self", "cls"]

/-- The node of a construct that is no declaration, without its parts; there is none for a receiver and for the
list of accepted words. -/
def ownNode (v : Visit) (form : Form) (e : Option Extent) : List Node :=
  match form with
  | .name id .store =>
    if v.isDirectlyIn .module && id == acceptedList then []
    else [⟨v.spanOf e, if v.isDirectlyIn .type then .field else .binding, some id, v.exports id⟩]
  | .attribute id .store => [⟨v.spanOf e, .field, some id, v.exportsAttribute id⟩]
  | .parameter id =>
    if receiverNames.contains id then [] else [⟨v.spanOf e, .parameter, some id, v.exportsParameter⟩]
  | .imported id => [v.binding e id]
  | .handler id => [v.binding e id]
  | .capture id => [v.binding e id]
  | _ => [v.other e]

/-- The visit of the parts of a construct that is no declaration. -/
def partsVisit (v : Visit) : Form → Visit
  | .lambda => v.within ⟨.function, false⟩
  | .comprehension => v.within ⟨.function, false⟩
  | _ => v

/-- The name of a declaration. -/
def ownerName : Owner → String
  | .function name => name
  | .type name => name

/-- The kind of node of a declaration. -/
def ownerKind : Owner → NodeKind
  | .function _ => .function
  | .type _ => .type

/-- The kind of scope that a declaration opens. -/
def ownerScope : Owner → ScopeKind
  | .function _ => .function
  | .type _ => .type

/-- The node of the documentation of a body, if there is one. -/
def docNodes (v : Visit) (exported : Bool) (body : List Tree) : List Node :=
  match docstring body with
  | some (place, text) => [⟨v.spanOf place, .doc, some text, exported⟩]
  | none => []

/-- The node of a declaration, and that of its documentation. -/
def ownerNodes (v : Visit) (owner : Owner) (e : Option Extent) (body : List Tree) : List Node :=
  let exported := v.exports (ownerName owner)
  ⟨v.spanOf e, ownerKind owner, some (ownerName owner), exported⟩ :: docNodes v exported body

mutual

/-- The nodes of a tree, each before those of its parts. -/
def nodesOf (v : Visit) : Tree → List Node
  | .node form e parts =>
    match form with
    | .name _ _ => ownNode v form e
    | _ => ownNode v form e ++ nodesOfAll (partsVisit v form) parts
  | .declaration owner e head body tail =>
    let inner := v.within ⟨ownerScope owner, v.exports (ownerName owner)⟩
    ownerNodes v owner e body ++ nodesOfAll inner head ++ nodesOfAll inner body ++ nodesOfAll inner tail

/-- The nodes of trees in a row. -/
def nodesOfAll (v : Visit) : List Tree → List Node
  | [] => []
  | t :: ts => nodesOf v t ++ nodesOfAll v ts

end

/-- The nodes of a module of a given name: first its own, at the start of the source, and that of its documentation. -/
def moduleNodes (lines : LineTable) (name : String) (m : Module) : List Node :=
  let exported := isPublic name
  let v : Visit := ⟨lines, exportedNames m.body, []⟩
  ⟨.origin, .module, some name, exported⟩ :: docNodes v exported m.body ++
    nodesOfAll (v.within ⟨.module, exported⟩) m.body

end SpellLint.Source
