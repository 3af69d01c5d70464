import SpellLint.Source.Lines
import SpellLint.Source.Token

/-! # Syntax trees

The tree of a source as far as spelling needs it. Every construct is a node with its place and its parts in the
order in which the language lists them; constructs that bind a name, open a scope or hold a text say so in their
form, all others are plain. Functions and classes are declarations: their body is kept apart from what is listed
before and after it, because it may start with a documentation text. A module is not a part of anything: it is the
list of the statements of a source.
-/

set_option autoImplicit false

namespace SpellLint.Source

/-- The place from one position to another. -/
def Extent.between (start stop : Position) : Extent :=
  ⟨start.line, some start.column, some stop.line, some stop.column⟩

/-- How a name is used. -/
inductive Usage where
  | load
  | store
  | delete
  deriving DecidableEq, Repr

/-- A literal value, as far as it is looked at. -/
inductive Literal where
  | none
  | true
  | false
  | ellipsis
  | bytes
  | number (imaginary : Bool)
  | text (value : String)
  deriving DecidableEq, Repr

/-- The forms of syntax that are no declarations. -/
inductive Form where
  /-- Any expression or statement without a form of its own. -/
  | plain
  /-- The usage of a target, listed behind its parts. -/
  | usage (usage : Usage)
  /-- A name. -/
  | name (id : String) (usage : Usage)
  /-- A name behind a point. -/
  | attribute (name : String) (usage : Usage)
  | subscript (usage : Usage)
  | starred (usage : Usage)
  | list (usage : Usage)
  | tuple (usage : Usage)
  | literal (value : Literal)
  /-- An expression as a statement. -/
  | statement
  /-- An assignment to one or more targets, listed before the value. -/
  | assign
  /-- An assignment to one annotated target; the value is listed last, if there is one. -/
  | annotatedAssign (hasValue : Bool)
  /-- An assignment that combines its target with a value by an operator, such as `+=`. -/
  | augmentedAssign (operator : String)
  /-- A function without a name. -/
  | lambda
  /-- A list, set or dictionary by rule, or a generator. -/
  | comprehension
  /-- A parameter. -/
  | parameter (name : String)
  /-- An imported name, and the name that it is given. -/
  | imported (asName : Option String)
  /-- A handler of errors, and the name that it gives to them. -/
  | handler (name : Option String)
  /-- A pattern that gives a name to what it matches. -/
  | capture (name : Option String)
  deriving DecidableEq, Repr

/-- What a declaration declares. -/
inductive Owner where
  | function (name : String)
  | type (name : String)
  deriving DecidableEq, Repr

/-- A syntax tree. -/
inductive Tree where
  | node (form : Form) (extent : Option Extent) (parts : List Tree)
  | declaration (owner : Owner) (extent : Option Extent) (head body tail : List Tree)

instance : Inhabited Tree := ⟨.node .plain none []⟩

/-- A whole source: its statements. -/
structure Module where
  body : List Tree
  deriving Inhabited

namespace Tree

/-- The place of a tree. -/
def extent : Tree → Option Extent
  | node _ e _ => e
  | declaration _ e _ _ _ => e

/-- The usage of a target as a part of it. -/
def ofUsage (u : Usage) : Tree := node (.usage u) none []

/-- A part that has no place of its own, such as an operator. -/
def unplaced (parts : List Tree) : Tree := node .plain none parts

/-- A name. -/
def ofName (id : String) (u : Usage) (e : Option Extent) : Tree := node (.name id u) e [ofUsage u]

mutual

/-- The same target with another usage; what is no target stays as it is. -/
def withUsage (u : Usage) : Tree → Tree
  | node (.name id _) e _ => ofName id u e
  | node (.tuple _) e parts => node (.tuple u) e (withUsageAll u parts)
  | node (.list _) e parts => node (.list u) e (withUsageAll u parts)
  | node (.starred _) e parts => node (.starred u) e (withUsageAll u parts)
  | node (.attribute name _) e (value :: _) => node (.attribute name u) e [value, ofUsage u]
  | node (.subscript _) e (value :: index :: _) => node (.subscript u) e [value, index, ofUsage u]
  | node (.usage _) e _ => node (.usage u) e []
  | t => t

/-- The same targets with another usage. -/
def withUsageAll (u : Usage) : List Tree → List Tree
  | [] => []
  | t :: ts => withUsage u t :: withUsageAll u ts

end

/-- The name, if the tree is nothing but a name. -/
def name? : Tree → Option String
  | node (.name id _) _ _ => some id
  | _ => Option.none

/-- The text, if the tree is a text literal. -/
def text? : Tree → Option String
  | node (.literal (.text value)) _ _ => some value
  | _ => Option.none

end Tree

end SpellLint.Source
