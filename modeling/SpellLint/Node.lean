import SpellLint.Span

/-! # What a source holds

The places of a source that carry a name or a text, as the checker sees them: it knows nothing about the language
that the source is written in.
-/

set_option autoImplicit false

namespace SpellLint

/-- What a place of a source carries. -/
inductive NodeKind where
  | module
  | function
  | type
  | binding
  | field
  | parameter
  | doc
  | comment
  /-- Neither a name nor a text. -/
  | other
  deriving DecidableEq, Repr

namespace NodeKind

/-- The kinds whose text is a name. -/
def isName : NodeKind → Bool
  | module => true
  | function => true
  | type => true
  | binding => true
  | field => true
  | parameter => true
  | _ => false

/-- The word for a kind. -/
def label : NodeKind → String
  | module => "module"
  | function => "function"
  | type => "type"
  | binding => "binding"
  | field => "field"
  | parameter => "parameter"
  | doc => "doc"
  | comment => "comment"
  | other => "other"

/-- All kinds. -/
def all : List NodeKind :=
  [module, function, type, binding, field, parameter, doc, comment, other]

/-- The kind of a word. -/
def ofLabel? (word : String) : Option NodeKind := all.find? (·.label == word)

end NodeKind

/-- A place of a source with the name or the text that it carries; `exported` if it is visible from outside. -/
structure Node where
  span : Span
  kind : NodeKind
  text : Option String
  exported : Bool
  deriving DecidableEq, Repr

end SpellLint
