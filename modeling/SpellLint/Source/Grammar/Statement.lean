import SpellLint.Source.Grammar.Pattern
import SpellLint.Source.Grammar.Target

/-! # The grammar of statements

Simple statements, of which several may stand in a line, and compound statements with their blocks. Two things
are worth a complaint when a source turns out not to match: a block that is not indented, and a `try` without
handlers.
-/

set_option autoImplicit false

namespace SpellLint.Source.Grammar

open SpellLint.Source.Grammar.Parser

variable (rules : Rules)

/-! ## Assignments -/

/-- `: kind` and perhaps `= value` behind a target. -/
def annotatedWith (target : Tree) : Parser (Extent → Tree) := do
  sym ":"
  let kind ← rules .expression
  let value ← optionalList (do sym "="; assignedValue rules)
  return fun e => .node (.annotatedAssign (!value.isEmpty)) (some e) (target :: kind :: value)

/-- The operators that combine a target with a value. -/
def combiningOperators : List String :=
  ["+=", "-=", "*=", "@=", "/=", "%=", "&=", "|=", "^=", "<<=", ">>=", "**=", "//="]

/-- An assignment: annotated, to one or more targets, or combining. -/
def assignment : Parser Tree :=
  placed (do
    let target ← name .store
    annotatedWith rules target)
  <|> placed (do
    let target ← (do
      sym "("
      let t ← rules .singleTarget
      sym ")"
      return t) <|> memberTarget rules .store
    annotatedWith rules target)
  <|> construct .assign (do
    let targets ← many1 (do
      let t ← starTargets rules
      sym "="
      return t)
    let value ← assignedValue rules
    notAhead (sym "=")
    return targets ++ [value])
  <|> placed (do
    let target ← rules .singleTarget
    let operator ← satisfy fun t => t.kind = .operator && combiningOperators.contains t.text
    let value ← assignedValue rules
    return fun e => .node (.augmentedAssign operator.text) (some e) [target, .unplaced [], value])

/-! ## Imports -/

/-- A name with points. -/
def dottedName : Parser Unit := do
  let _ ← sepBy1 ident (sym ".")

/-- `as name`. -/
def asName : Parser (Option String) := optional (do sym "as"; ident)

/-- An imported module. -/
def importedModule : Parser Tree :=
  placed do
    dottedName
    let n ← asName
    return fun e => .node (.imported n) (some e) []

/-- A name imported from a module. -/
def importedName : Parser Tree :=
  placed do
    let _ ← ident
    let n ← asName
    return fun e => .node (.imported n) (some e) []

/-- The names imported from a module: in parentheses, in a row, or all of them. -/
def importedNames : Parser (List Tree) :=
  (do
    sym "("
    let names ← sepBy1 importedName (sym ",")
    let _ ← optional (sym ",")
    sym ")"
    return names)
  <|> (do
    let names ← sepBy1 importedName (sym ",")
    notAhead (sym ",")
    return names)
  <|> (do return [← construct (.imported none) (do sym "*"; return [])])

/-- `import` and `from … import`. -/
def importStatement : Parser Tree :=
  plain (do
    sym "import"
    sepBy1 importedModule (sym ","))
  <|> plain (do
    sym "from"
    let points ← many (sym "." <|> sym "...")
    let module ← optional dottedName
    if points.isEmpty && module.isNone then fail
    else
      sym "import"
      importedNames)

/-! ## Simple statements -/

/-- A statement without blocks. -/
def simpleStatement : Parser Tree := do
  let t ← peek
  if t.kind = .keyword then
    match t.text with
    | "return" => plain (do sym "return"; optionalList (starExpressions rules))
    | "import" => importStatement
    | "from" => importStatement
    | "raise" =>
      plain (do
        sym "raise"
        let raised ← optionalList (do
          let e ← rules .expression
          return e :: (← optionalList (do sym "from"; rules .expression)))
        return raised.flatten)
    | "pass" => plain (do sym "pass"; return [])
    | "break" => plain (do sym "break"; return [])
    | "continue" => plain (do sym "continue"; return [])
    | "del" =>
      plain (do
        sym "del"
        let targets ← targetRow (rules .deleteTarget)
        ahead (sym ";" <|> (do let _ ← kind .newline))
        return targets)
    | "yield" => construct .statement (do return [← yieldExpression rules])
    | "assert" =>
      plain (do
        sym "assert"
        let test ← rules .expression
        return test :: (← optionalList (do sym ","; rules .expression)))
    | "global" => plain (do sym "global"; let _ ← sepBy1 ident (sym ","); return [])
    | "nonlocal" => plain (do sym "nonlocal"; let _ ← sepBy1 ident (sym ","); return [])
    | _ => expressionOrAssignment
  else expressionOrAssignment
where
  /-- An assignment, or expressions as a statement. -/
  expressionOrAssignment : Parser Tree :=
    assignment rules <|> construct .statement (do return [← starExpressions rules])

/-- The statements of one line. -/
def statementLine : Parser (List Tree) := do
  let statements ← sepBy1 (simpleStatement rules) (sym ";")
  let _ ← optional (sym ";")
  let _ ← kind .newline
  return statements

/-! ## Blocks -/

/-- Takes the start of an indented block; complains if the line ends and nothing is indented. -/
def indented : Parser Unit := do
  let _ ← kind .newline
  let t ← peek
  if t.kind = .indent then advance
  else
    complain .indentation
    fail

/-- The statements that belong to the line in front: indented below it, or in the same line. -/
def blockRule : Parser (List Tree) :=
  (do
    indented
    let statements ← rules .statements
    let _ ← kind .dedent
    return statements)
  <|> statementLine rules

/-- The block behind a keyword. -/
def blockAfter (keyword : String) : Parser (List Tree) := do
  sym keyword
  sym ":"
  rules .block

/-- The block behind `else`, if there is one. -/
def elseBlock : Parser (List Tree) := do
  return (← optionalList (blockAfter rules "else")).flatten

/-! ## Functions and classes -/

/-- The decorators in front of a definition. -/
def decorators : Parser (List Tree) :=
  many1 do
    sym "@"
    let d ← namedExpression rules
    let _ ← kind .newline
    return d

/-- A function. -/
def functionDefinition (decorated : List Tree) : Parser Tree :=
  placed do
    let _ ← optional (sym "async")
    sym "def"
    let id ← ident
    sym "("
    let ps ← parameters rules ⟨true, ")"⟩
    sym ")"
    let returned ← optionalList (do sym "->"; rules .expression)
    sym ":"
    let body ← rules .block
    return fun e => .declaration (.function id) (some e) [ps] body (decorated ++ returned)

/-- A class. -/
def classDefinition (decorated : List Tree) : Parser Tree :=
  placed do
    sym "class"
    let id ← ident
    let bases ← optionalList (do
      sym "("
      let found ← optionalList (rules .arguments)
      sym ")"
      return found.flatten)
    sym ":"
    let body ← rules .block
    return fun e => .declaration (.type id) (some e) bases.flatten body decorated

/-! ## Branches and loops -/

/-- `if` or `elif`, named by `keyword`, with what follows it. -/
def conditional (keyword : String) : Parser Tree :=
  plain do
    sym keyword
    let condition ← namedExpression rules
    sym ":"
    let body ← rules .block
    let other ← (do return [← rules .elseIf]) <|> elseBlock rules
    return condition :: body ++ other

/-- `while`. -/
def whileLoop : Parser Tree :=
  plain do
    sym "while"
    let condition ← namedExpression rules
    sym ":"
    let body ← rules .block
    return condition :: body ++ (← elseBlock rules)

/-- `for`. -/
def forLoop : Parser Tree :=
  plain do
    let _ ← optional (sym "async")
    sym "for"
    let targets ← starTargets rules
    sym "in"
    let values ← starExpressions rules
    sym ":"
    let body ← rules .block
    return targets :: values :: body ++ (← elseBlock rules)

/-! ## Contexts and handlers -/

/-- A context, and the target that it is assigned to. -/
def contextItem : Parser Tree :=
  (do
    let context ← rules .expression
    sym "as"
    let target ← rules .starTarget
    ahead (sym "," <|> sym ")" <|> sym ":")
    return .unplaced [context, target])
  <|> (do return .unplaced [← rules .expression])

/-- `with`. -/
def withStatement : Parser Tree :=
  plain do
    let _ ← optional (sym "async")
    sym "with"
    (do
      sym "("
      let items ← targetRow (contextItem rules)
      sym ")"
      sym ":"
      return items ++ (← rules .block))
    <|> (do
      let items ← sepBy1 (contextItem rules) (sym ",")
      sym ":"
      return items ++ (← rules .block))

/-- `except`, with a star for groups of errors. -/
def handler (star : Bool) : Parser Tree :=
  placed do
    sym "except"
    if star then sym "*"
    let (type, id) ←
      (do
        let type ← rules .expression
        return ([type], ← asName))
      <|> (if star then fail else pure ([], none))
    sym ":"
    let body ← rules .block
    return fun e => .node (.handler id) (some e) (type ++ body)

/-- `try`. -/
def tryStatement : Parser Tree :=
  plain do
    let body ← blockAfter rules "try"
    let t ← peek
    if t.kind = .keyword && (t.text == "except" || t.text == "finally") then
      (do return body ++ (← blockAfter rules "finally"))
      <|> (do
        let handlers ← many1 (handler rules false) <|> many1 (handler rules true)
        let other ← elseBlock rules
        let last ← optionalList (blockAfter rules "finally")
        return body ++ handlers ++ other ++ last.flatten)
    else
      complain .malformed
      fail

/-! ## Matching -/

/-- The value that is matched: a row with a comma, or a single value. -/
def subject : Parser Tree :=
  construct (.tuple .load) (do
    let first ← starNamedExpression rules
    sym ","
    return first :: (← optionalList (starNamedExpressions rules)).flatten ++ [.ofUsage .load])
  <|> namedExpression rules

/-- `case`. -/
def matchCase : Parser Tree := do
  softKeyword "case"
  let p ← casePattern rules
  let guard ← optionalList (do sym "if"; namedExpression rules)
  sym ":"
  let body ← rules .block
  return .unplaced (p :: guard ++ body)

/-- `match`. A line that could only be a match without its colon is worth a complaint, although it may be a
call. -/
def matchStatement : Parser Tree :=
  plain do
    softKeyword "match"
    let value ← subject rules
    let t ← peek
    if t.kind = .newline then complain .malformed
    sym ":"
    indented
    let cases ← many1 (matchCase rules)
    let _ ← kind .dedent
    return value :: cases

/-! ## Statements -/

/-- A statement with blocks. -/
def compoundStatement : Parser Tree := do
  let t ← peek
  match t.kind, t.text with
  | .keyword, "def" => functionDefinition rules []
  | .keyword, "class" => classDefinition rules []
  | .keyword, "async" => functionDefinition rules [] <|> withStatement rules <|> forLoop rules
  | .keyword, "if" => conditional rules "if"
  | .keyword, "while" => whileLoop rules
  | .keyword, "for" => forLoop rules
  | .keyword, "with" => withStatement rules
  | .keyword, "try" => tryStatement rules
  | .operator, "@" => do
    let ds ← decorators rules
    functionDefinition rules ds <|> classDefinition rules ds
  | .name, "match" => matchStatement rules
  | _, _ => fail

/-- One statement or more. -/
def statementsRule : Parser (List Tree) := do
  let found ← many1 ((do return [← compoundStatement rules]) <|> statementLine rules)
  return found.flatten

end SpellLint.Source.Grammar
