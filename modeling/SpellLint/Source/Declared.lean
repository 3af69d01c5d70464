import SpellLint.Source.Syntax

/-! # What a module says about its names

Two top-level assignments concern the checker: the list of exported names, if it is literal, and the words that
the module wants to be accepted.
-/

set_option autoImplicit false

namespace SpellLint.Source

open SpellLint.Text

/-! ## The parts of an assignment -/

/-- The targets and the value of an assignment that sets its targets. -/
def assigned : Tree → Option (List Tree × Option Tree)
  | .node .assign _ parts => some (parts.dropLast, parts.getLast?)
  | .node (.annotatedAssign hasValue) _ parts => some (parts.take 1, if hasValue then parts.getLast? else none)
  | _ => none

/-- The targets and the value of an assignment that adds to its target. -/
def augmented : Tree → Option (List Tree × Option Tree)
  | .node (.augmentedAssign _) _ parts => some (parts.take 1, parts.getLast?)
  | _ => none

/-- Whether one of the targets is a name. -/
def isAmong (name : String) (targets : List Tree) : Bool :=
  targets.any (·.name? == some name)

/-! ## Exported names -/

/-- The texts in a literal list or tuple. -/
def literalNames : Tree → Option (List String)
  | .node (.list _) _ parts => some (parts.filterMap (·.text?))
  | .node (.tuple _) _ parts => some (parts.filterMap (·.text?))
  | _ => none

/-- The name of the list of exported names. -/
def exportList : String := "__all__"

/-- The exported names after one more statement. -/
def exportsAfter (names : Option (List String)) (statement : Tree) : Option (List String) :=
  match augmented statement with
  | some (targets, value) =>
    if isAmong exportList targets then
      match value.bind literalNames with
      | some found => some (names.getD [] ++ found)
      | none => names
    else names
  | none =>
    match assigned statement with
    | some (targets, value) =>
      if isAmong exportList targets then
        match value.bind literalNames with
        | some found => some found
        | none => names
      else names
    | none => names

/-- The names that a module exports, as far as literal assignments to the list tell. -/
def exportedNames (body : List Tree) : Option (List String) :=
  body.foldl exportsAfter none

/-! ## Accepted words -/

/-- The name of the text that lists the words to accept. -/
def acceptedList : String := "__lexicheck_words__"

/-- The words to accept, if a statement lists them. -/
def acceptedBy (statement : Tree) : Option (List String) :=
  match assigned statement with
  | some (targets, value) =>
    if isAmong acceptedList targets then (value.bind (·.text?)).map fields else none
  | none => none

/-- The words that a module wants to be accepted: those of the first statement that lists any. -/
def acceptedWords (body : List Tree) : List String :=
  (body.findSome? acceptedBy).getD []

end SpellLint.Source
