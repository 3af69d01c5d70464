import SpellLint.Source.Grammar.Expression

/-! # The grammar of patterns

What stands behind `case`: literals, values, captures, classes, and rows and maps of patterns.
-/

set_option autoImplicit false

namespace SpellLint.Source.Grammar

open SpellLint.Source.Grammar.Parser

variable (rules : Rules)

/-! ## Literals and values -/

/-- A number that is imaginary, or one that is not. -/
def numberOf (imaginary : Bool) : Parser Tree := do
  let t ← number
  match t with
  | .node (.literal (.number i)) _ _ => if i = imaginary then return t else refuse .malformed
  | _ => fail

/-- A number with an optional minus sign. -/
def signed (n : Parser Tree) : Parser Tree :=
  n <|> plain (do
    sym "-"
    return [.unplaced [], ← n])

/-- A real number plus or minus an imaginary one. -/
def complexNumber : Parser Tree :=
  plain do
    let real ← signed (numberOf false)
    sym "+" <|> sym "-"
    return [real, .unplaced [], ← numberOf true]

/-- A number, a complex number or a string. -/
def literalValue : Parser Tree :=
  (do
    let n ← signed number
    notAhead (sym "+" <|> sym "-")
    return n)
  <|> complexNumber <|> rules .strings

/-- One of the constants that are compared by identity. -/
def constant : Parser Tree :=
  literal .none (sym "None") <|> literal .true (sym "True") <|> literal .false (sym "False")

/-- A name with attributes behind it, at least `least` of them. -/
def dottedValue (least : Nat) : Parser Tree := do
  let start ← here
  let first ← name .load
  let (value, count) ← improving (fun (value, count) => do
    return (← attributeOf .load start value, count + 1)) (first, 0)
  if count < least then fail else return value

/-! ## Captures -/

/-- A name that is given to what matches: not the underscore, and nothing that goes on as a value. -/
def captureName : Parser String := do
  notAhead (softKeyword "_")
  let id ← ident
  notAhead (sym "." <|> sym "(" <|> sym "=")
  return id

/-- A pattern that matches everything and gives it a name. -/
def capturePattern : Parser Tree :=
  placed do
    let id ← captureName
    return fun e => .node (.capture (some id)) (some e) []

/-- A pattern that matches everything. -/
def wildcard : Parser Tree := construct (.capture none) (do softKeyword "_"; return [])

/-- A pattern for the rest of a row. -/
def starPattern : Parser Tree :=
  placed do
    sym "*"
    let id ← (do return some (← captureName)) <|> (do softKeyword "_"; return none)
    return fun e => .node (.capture id) (some e) []

/-! ## Rows, maps and classes -/

/-- An element of a row. -/
def rowElement : Parser Tree := starPattern <|> rules .pattern

/-- A row of patterns with an optional comma behind it. -/
def patternRow : Parser (List Tree) := do
  let elements ← sepBy1 (rowElement rules) (sym ",")
  let _ ← optional (sym ",")
  return elements

/-- A row of patterns with at least one comma. -/
def openRow : Parser (List Tree) := do
  let first ← rowElement rules
  sym ","
  return first :: (← optionalList (patternRow rules)).flatten

/-- A row of patterns in brackets. -/
def sequencePattern : Parser Tree :=
  plain (do
    sym "["
    let elements ← optionalList (patternRow rules)
    sym "]"
    return elements.flatten)
  <|> plain (do
    sym "("
    let elements ← optionalList (openRow rules)
    sym ")"
    return elements.flatten)

/-- A key and the pattern of its value. -/
def keyPattern : Parser (Tree × Tree) := do
  let key ← literalValue rules <|> constant <|> dottedValue 1
  sym ":"
  return (key, ← rules .pattern)

/-- A map of patterns, and the name that the rest of the map is given. -/
def mappingPattern : Parser Tree :=
  placed do
    sym "\x7b"
    let comma := optional (sym ",")
    let rest : Parser String := do sym "**"; captureName
    let (items, remaining) ←
      (do sym "\x7d"; return ([], none))
      <|> (do
        let r ← rest
        let _ ← comma
        sym "\x7d"
        return ([], some r))
      <|> (do
        let items ← sepBy1 (keyPattern rules) (sym ",")
        sym ","
        let r ← rest
        let _ ← comma
        sym "\x7d"
        return (items, some r))
      <|> (do
        let items ← sepBy1 (keyPattern rules) (sym ",")
        let _ ← comma
        sym "\x7d"
        return (items, none))
    return fun e => .node (.capture remaining) (some e) (items.map (·.1) ++ items.map (·.2))

/-- A class with patterns for its attributes, by position and by name. -/
def classPattern : Parser Tree :=
  plain do
    let type ← dottedValue 0
    sym "("
    let comma := optional (sym ",")
    let byName : Parser Tree := do
      let _ ← ident
      sym "="
      rules .pattern
    let positional := sepBy1 (rules .pattern) (sym ",")
    let named := sepBy1 byName (sym ",")
    let found ←
      (do sym ")"; return [])
      <|> (do
        let ps ← positional
        let _ ← comma
        sym ")"
        return ps)
      <|> (do
        let ns ← named
        let _ ← comma
        sym ")"
        return ns)
      <|> (do
        let ps ← positional
        sym ","
        let ns ← named
        let _ ← comma
        sym ")"
        return ps ++ ns)
    return type :: found

/-! ## Patterns -/

/-- A pattern that needs no brackets around it. -/
def closedPatternRule : Parser Tree :=
  plain (do return [← literalValue rules])
  <|> plain (do
    let _ ← constant
    return [])
  <|> capturePattern
  <|> wildcard
  <|> plain (do
    let value ← dottedValue 1
    notAhead (sym "." <|> sym "(" <|> sym "=")
    return [value])
  <|> (do
    sym "("
    let p ← rules .pattern
    sym ")"
    return p)
  <|> sequencePattern rules
  <|> mappingPattern rules
  <|> classPattern rules

/-- Alternatives, of which the match may be given a name. -/
def patternRule : Parser Tree := do
  let start ← here
  let first ← rules .closedPattern
  let rest ← many (do sym "|"; rules .closedPattern)
  let choice ←
    if rest.isEmpty then pure first
    else do pure (.node .plain (some (← since start)) (first :: rest))
  (do
    sym "as"
    let id ← captureName
    return .node (.capture (some id)) (some (← since start)) [choice]) <|> pure choice

/-- The pattern of a case: a row without brackets, or a single pattern. -/
def casePattern : Parser Tree :=
  plain (openRow rules) <|> rules .pattern

end SpellLint.Source.Grammar
