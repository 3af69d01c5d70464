import SpellLint.Source.Grammar.Expression

/-! # The grammar of targets

What may stand to the left of `=`, behind `for`, `as` and `del`: names, attributes, subscripts, and rows of
them. An attribute or a subscript is a target only if nothing that would extend it follows.
-/

set_option autoImplicit false

namespace SpellLint.Source.Grammar

open SpellLint.Source.Grammar.Parser

variable (rules : Rules)

/-- The start of a call, a subscript or an attribute. -/
def moreAhead : Parser Unit := ahead (sym "(" <|> sym "[" <|> sym ".")

/-- The value whose attribute or item is a target: something that is followed by more. -/
def targetPrimaryRule : Parser Tree := do
  let start ← here
  let first ← rules .atom
  moreAhead
  improving (fun value => do
    let extended ← trailer rules start value
    moreAhead
    return extended) first

/-- An attribute or an item as a target. -/
def memberTarget (u : Usage) : Parser Tree := do
  let start ← here
  let value ← rules .targetPrimary
  let t ← attributeOf u start value <|> subscriptOf rules u start value
  notAhead (sym "(" <|> sym "[" <|> sym ".")
  return t

/-- A row of targets with an optional comma behind it. -/
def targetRow (element : Parser Tree) : Parser (List Tree) := do
  let elements ← sepBy1 element (sym ",")
  let _ ← optional (sym ",")
  return elements

/-- A row of targets with at least one comma. -/
def tupleRow (element : Parser Tree) : Parser (List Tree) := do
  let first ← element
  let rest ← many (do sym ","; element)
  let comma ← optional (sym ",")
  if rest.isEmpty && comma.isNone then fail else return first :: rest

/-- A row of targets in parentheses. -/
def parenthesizedRow (u : Usage) (row : Parser (List Tree)) : Parser Tree :=
  construct (.tuple u) do
    sym "("
    let elements ← optionalList row
    sym ")"
    return elements.flatten ++ [.ofUsage u]

/-- A row of targets in brackets. -/
def bracketedRow (u : Usage) (row : Parser (List Tree)) : Parser Tree :=
  construct (.list u) do
    sym "["
    let elements ← optionalList row
    sym "]"
    return elements.flatten ++ [.ofUsage u]

/-- A single target in parentheses. -/
def enclosed (u : Usage) (t : Parser Tree) : Parser Tree := do
  sym "("
  let inner ← t
  sym ")"
  return inner.withUsage u

/-- A target without a star: a member, a name, or targets in brackets. -/
def targetRule : Parser Tree :=
  memberTarget rules .store <|> name .store <|> enclosed .store (rules .target) <|>
    parenthesizedRow .store (tupleRow (rules .starTarget)) <|>
    bracketedRow .store (targetRow (rules .starTarget))

/-- A target that may be starred once. -/
def starTargetRule : Parser Tree :=
  construct (.starred .store) (do
    sym "*"
    notAhead (sym "*")
    let t ← rules .starTarget
    return [t.withUsage .store, .ofUsage .store])
  <|> rules .target

/-- One target, or a tuple of targets without brackets. -/
def starTargets : Parser Tree := forClause.starTargetList rules

/-- A target that is no row. -/
def singleTargetRule : Parser Tree :=
  memberTarget rules .store <|> name .store <|> (do
    sym "("
    let t ← rules .singleTarget
    sym ")"
    return t)

/-- Something to delete. -/
def deleteTargetRule : Parser Tree :=
  memberTarget rules .delete <|> name .delete <|> enclosed .delete (rules .deleteTarget) <|>
    parenthesizedRow .delete (targetRow (rules .deleteTarget)) <|>
    bracketedRow .delete (targetRow (rules .deleteTarget))

end SpellLint.Source.Grammar
