import SpellLint.Source.Grammar.Parser

/-! # The grammar of expressions

From lambda and conditional expressions down to names and literals, with the arguments of calls, the parameters
of functions and the clauses of comprehensions. Rules that refer to each other are taken from `rules`.
-/

set_option autoImplicit false

namespace SpellLint.Source.Grammar

open SpellLint.Source.Grammar.Parser

variable (rules : Rules)

/-! ## Expressions with names and stars -/

/-- `name := value`. -/
def assignmentExpression : Parser Tree :=
  plain do
    let target ← name .store
    sym ":="
    return [target, ← rules .expression]

/-- An expression that no `:=` follows. -/
def bareExpression : Parser Tree := do
  let e ← rules .expression
  notAhead (sym ":=")
  return e

/-- An expression that may give a name to its value. -/
def namedExpression : Parser Tree :=
  assignmentExpression rules <|> bareExpression rules

/-- `* operand`, which is read by `operand`. -/
def starred (operand : Parser Tree) : Parser Tree :=
  construct (.starred .load) do
    sym "*"
    return [← operand, .ofUsage .load]

/-- An expression that may be starred, in a list of results. -/
def starExpression : Parser Tree :=
  starred (rules .bitwise) <|> rules .expression

/-- An expression that may be starred or named, in a display. -/
def starNamedExpression : Parser Tree :=
  starred (rules .bitwise) <|> namedExpression rules

/-- One expression, or a tuple of expressions without brackets. -/
def listedBy (element : Parser Tree) : Parser Tree := do
  let start ← here
  let first ← element
  let rest ← many (do sym ","; element)
  let comma ← optional (sym ",")
  if rest.isEmpty && comma.isNone then return first
  else return .node (.tuple .load) (some (← since start)) (first :: rest ++ [.ofUsage .load])

/-- One expression or several, any of which may be starred. -/
def starExpressions : Parser Tree := listedBy (starExpression rules)

/-- One expression or several. -/
def expressions : Parser Tree := listedBy (rules .expression)

/-- The elements of a display, with an optional comma behind them. -/
def starNamedExpressions : Parser (List Tree) := do
  let elements ← sepBy1 (starNamedExpression rules) (sym ",")
  let _ ← optional (sym ",")
  return elements

/-- `yield`, with or without values. -/
def yieldExpression : Parser Tree :=
  plain do
    sym "yield"
    (do sym "from"; return [← rules .expression]) <|> optionalList (starExpressions rules)

/-- What may be assigned. -/
def assignedValue : Parser Tree := yieldExpression rules <|> starExpressions rules

/-! ## Comprehensions -/

/-- `for targets in values if condition`. -/
def forClause : Parser Tree := do
  let _ ← optional (sym "async")
  sym "for"
  let targets ← starTargetList
  sym "in"
  let values ← rules .disjunction
  let conditions ← many (do sym "if"; rules .disjunction)
  return .unplaced (targets :: values :: conditions)
where
  /-- One target or a tuple of targets without brackets. -/
  starTargetList : Parser Tree := do
    let start ← here
    let first ← rules .starTarget
    let rest ← many (do sym ","; rules .starTarget)
    let comma ← optional (sym ",")
    if rest.isEmpty && comma.isNone then return first
    else return .node (.tuple .store) (some (← since start)) (first :: rest ++ [.ofUsage .store])

/-- The clauses of a comprehension. -/
def forClauses : Parser (List Tree) := many1 (forClause rules)

/-- A comprehension in brackets. -/
def comprehension (opening : String) (element : Parser (List Tree)) (closing : String) : Parser Tree :=
  construct .comprehension do
    sym opening
    let parts ← element
    let clauses ← forClauses rules
    sym closing
    return parts ++ clauses

/-- A generator in parentheses. -/
def generator : Parser Tree :=
  comprehension rules "(" (do return [← assignmentExpression rules <|> bareExpression rules]) ")"

/-! ## Arguments of calls -/

/-- An argument, and whether it is passed by name. -/
structure Argument where
  tree : Tree
  isNamed : Bool

/-- `*values` as an argument. -/
def starredArgument : Parser Tree := starred (rules .expression)

/-- `name = value`. -/
def namedArgument : Parser Argument := do
  let t ← plain do
    let _ ← ident
    sym "="
    return [← rules .expression]
  return ⟨t, true⟩

/-- `**values`. -/
def mappedArgument : Parser Argument := do
  let t ← plain do
    sym "**"
    return [← rules .expression]
  return ⟨t, true⟩

/-- Arguments by position: starred, named by `:=`, or plain, but not followed by `=`. -/
def positionalArgument : Parser Tree :=
  starredArgument rules <|> (do
    let e ← assignmentExpression rules <|> bareExpression rules
    notAhead (sym "=")
    return e)

/-- Arguments from the first one by name on; mapped ones come last. -/
def laterArguments : Parser (List Argument) := do
  let nameOrStar := namedArgument rules <|> (do return ⟨← starredArgument rules, false⟩)
  let nameOrMap := namedArgument rules <|> mappedArgument rules
  (do
    let early ← sepBy1 nameOrStar (sym ",")
    sym ","
    let late ← sepBy1 nameOrMap (sym ",")
    return early ++ late) <|> sepBy1 nameOrStar (sym ",") <|> sepBy1 nameOrMap (sym ",")

/-- The arguments by position and those by name, in this order. -/
def ordered (positional : List Tree) (later : List Argument) : List Tree :=
  positional ++ (later.filter (!·.isNamed)).map (·.tree) ++ (later.filter (·.isNamed)).map (·.tree)

/-- The arguments of a call or the bases of a class, up to the closing parenthesis. -/
def argumentList : Parser (List Tree) := do
  let found ←
    (do
      let positional ← sepBy1 (positionalArgument rules) (sym ",")
      let later ← optional (do sym ","; laterArguments rules)
      return ordered positional (later.getD []))
    <|> (do return ordered [] (← laterArguments rules))
  let _ ← optional (sym ",")
  ahead (sym ")")
  return found

/-! ## Parameters -/

/-- The parameters of `def` may be annotated and end at a parenthesis, those of `lambda` end at a colon. -/
structure ParameterStyle where
  annotated : Bool
  closing : String

/-- A parameter with its annotation, which `note` reads. -/
def parameter (style : ParameterStyle) (note : Parser Tree) : Parser Tree :=
  placed do
    let id ← ident
    let notes ← if style.annotated then optionalList (do sym ":"; note) else pure []
    return fun e => .node (.parameter id) (some e) notes

/-- The comma behind a parameter, or the end of the parameters. -/
def parameterEnd (style : ParameterStyle) : Parser Unit :=
  sym "," <|> ahead (sym style.closing)

/-- A parameter without a default. -/
def plainParameter (style : ParameterStyle) : Parser Tree := do
  let p ← parameter style (rules .expression)
  parameterEnd style
  return p

/-- A parameter with a default. -/
def defaultedParameter (style : ParameterStyle) : Parser (Tree × Tree) := do
  let p ← parameter style (rules .expression)
  sym "="
  let value ← rules .expression
  parameterEnd style
  return (p, value)

/-- A parameter with or without a default. -/
def mixedParameter (style : ParameterStyle) : Parser (Tree × List Tree) := do
  let p ← parameter style (rules .expression)
  let value ← optionalList (do sym "="; rules .expression)
  parameterEnd style
  return (p, value)

/-- `**name`, as a list. -/
def mappedParameter (style : ParameterStyle) : Parser (List Tree) :=
  optionalList (do sym "**"; plainParameter rules style)

/-- The parameters from a star on: the star's own, those by name with their defaults, and the mapped one. -/
def starParameters (style : ParameterStyle) : Parser (List Tree) :=
  (do
    sym "*"
    let own ← plainParameter rules style <|> (do
      if style.annotated then
        let p ← parameter style (starExpression rules)
        parameterEnd style
        return p
      else fail)
    let byName ← many (mixedParameter rules style)
    return own :: byName.map (·.1) ++ byName.flatMap (·.2) ++ (← mappedParameter rules style))
  <|> (do
    sym "*"
    sym ","
    let byName ← many1 (mixedParameter rules style)
    return byName.map (·.1) ++ byName.flatMap (·.2) ++ (← mappedParameter rules style))
  <|> (do
    sym "**"
    return [← plainParameter rules style])

/-- The parameters of a function: those by position only, the plain ones, those from a star on, and the defaults
of the first two. -/
def parameterList (style : ParameterStyle) : Parser Tree := do
  let defaulted := defaultedParameter rules style
  let plainOne := plainParameter rules style
  let slash : Parser Unit := do sym "/"; parameterEnd style
  let rest : Parser (List Tree) := do
    return (← optionalList (starParameters rules style)).flatten
  let build (byPosition : List Tree) (withDefaults : List (Tree × Tree)) (star : List Tree) : Tree :=
    .unplaced (byPosition ++ withDefaults.map (·.1) ++ star ++ withDefaults.map (·.2))
  (do
    let only ← many1 plainOne
    slash
    let more ← many plainOne
    let withDefaults ← many defaulted
    return build (only ++ more) withDefaults (← rest))
  <|> (do
    let only ← many plainOne
    let onlyDefaults ← many1 defaulted
    slash
    let withDefaults ← many defaulted
    return build only (onlyDefaults ++ withDefaults) (← rest))
  <|> (do
    let more ← many1 plainOne
    let withDefaults ← many defaulted
    return build more withDefaults (← rest))
  <|> (do
    let withDefaults ← many1 defaulted
    return build [] withDefaults (← rest))
  <|> (do return build [] [] (← starParameters rules style))

/-- The parameters of a function, of which there may be none. -/
def parameters (style : ParameterStyle) : Parser Tree :=
  parameterList rules style <|> pure (.unplaced [])

/-! ## From conditional expressions to factors -/

/-- `lambda parameters: value`. -/
def lambdaExpression : Parser Tree :=
  construct .lambda do
    sym "lambda"
    let ps ← parameters rules ⟨false, ":"⟩
    sym ":"
    return [ps, ← rules .expression]

/-- Any expression. -/
def expressionRule : Parser Tree := do
  let start ← here
  (do
    let value ← rules .disjunction
    (do
      sym "if"
      let condition ← rules .disjunction
      sym "else"
      let other ← rules .expression
      return .node .plain (some (← since start)) [condition, value, other]) <|> pure value)
  <|> lambdaExpression rules

/-- Operands joined by one logical operator. -/
def logical (operator : String) (operand : Parser Tree) : Parser Tree := do
  let start ← here
  let first ← operand
  let rest ← many (do sym operator; operand)
  if rest.isEmpty then return first
  else return .node .plain (some (← since start)) (.unplaced [] :: first :: rest)

/-- `not operand`, or a comparison. -/
def inversionRule : Parser Tree :=
  plain (do
    sym "not"
    return [.unplaced [], ← rules .inversion])
  <|> (do
    let start ← here
    let first ← rules .bitwise
    let rest ← many (do comparisonOperator; rules .bitwise)
    if rest.isEmpty then return first
    else
      return .node .plain (some (← since start)) (first :: rest.map (fun _ => .unplaced []) ++ rest))
where
  /-- An operator that compares. -/
  comparisonOperator : Parser Unit :=
    sym "==" <|> sym "!=" <|> sym "<=" <|> sym "<" <|> sym ">=" <|> sym ">" <|>
      (do sym "not"; sym "in") <|> sym "in" <|> (do sym "is"; sym "not") <|> sym "is"

/-- Operands of arithmetic and of operations on bits, from the loosest operator to the tightest. -/
def bitwiseRule : Parser Tree :=
  let product := leftGrouped (sym "*" <|> sym "/" <|> sym "//" <|> sym "%" <|> sym "@") (rules .factor)
  let sum := leftGrouped (sym "+" <|> sym "-") product
  let shift := leftGrouped (sym "<<" <|> sym ">>") sum
  let both := leftGrouped (sym "&") shift
  let either := leftGrouped (sym "^") both
  leftGrouped (sym "|") either

/-- A signed operand, or a power. -/
def factorRule : Parser Tree :=
  plain (do
    sym "+" <|> sym "-" <|> sym "~"
    return [.unplaced [], ← rules .factor])
  <|> (do
    let start ← here
    let base ← plain (do sym "await"; return [← rules .primary]) <|> rules .primary
    (do
      sym "**"
      let exponent ← rules .factor
      return .node .plain (some (← since start)) [base, .unplaced [], exponent]) <|> pure base)

/-! ## Primaries -/

/-- An index or a slice. -/
def slice : Parser Tree :=
  plain (do
    let lower ← optionalList (rules .expression)
    sym ":"
    let upper ← optionalList (rules .expression)
    let step ← optionalList (do sym ":"; optionalList (rules .expression))
    return lower ++ upper ++ step.flatten)
  <|> namedExpression rules

/-- What stands between the brackets of a subscript. -/
def slices : Parser Tree := do
  (do
    let s ← slice rules
    notAhead (sym ",")
    return s)
  <|> construct (.tuple .load) (do
    let elements ← sepBy1 (slice rules <|> starredArgument rules) (sym ",")
    let _ ← optional (sym ",")
    return elements ++ [.ofUsage .load])

/-- `.name` behind a value. -/
def attributeOf (u : Usage) (start : Nat) (value : Tree) : Parser Tree := do
  sym "."
  let id ← ident
  return .node (.attribute id u) (some (← since start)) [value, .ofUsage u]

/-- `[index]` behind a value. -/
def subscriptOf (u : Usage) (start : Nat) (value : Tree) : Parser Tree := do
  sym "["
  let index ← slices rules
  sym "]"
  return .node (.subscript u) (some (← since start)) [value, index, .ofUsage u]

/-- A call of a value. -/
def callOf (start : Nat) (value : Tree) : Parser Tree :=
  (do
    let g ← generator rules
    return .node .plain (some (← since start)) [value, g])
  <|> (do
    sym "("
    let args ← optionalList (rules .arguments)
    sym ")"
    return .node .plain (some (← since start)) (value :: args.flatten))

/-- What may follow a primary and belongs to it. -/
def trailer (start : Nat) (value : Tree) : Parser Tree :=
  attributeOf .load start value <|> callOf rules start value <|> subscriptOf rules .load start value

/-- An atom with attributes, calls and subscripts. -/
def primaryRule : Parser Tree := do
  let start ← here
  let first ← rules .atom
  improving (trailer rules start) first

/-! ## Atoms -/

/-- A literal that a token stands for. -/
def literal (l : Literal) (token : Parser Unit) : Parser Tree :=
  construct (.literal l) (do token; return [])

/-- A number. -/
def number : Parser Tree :=
  placed do
    let t ← kind .number
    if isTooLong t.text then refuse .malformed
    else return fun e => .node (.literal (.number (isImaginary t.text))) (some e) []

/-- A row of string literals. -/
def stringsRule : Parser Tree := do
  let start ← here
  let tokens ← many1 (kind .string)
  let row ← since start
  fun input s =>
    match rowTree input.read tokens row with
    | .ok t => .found t s
    | .error e => .refused e

/-- What parentheses may enclose. -/
def parenthesized : Parser Tree :=
  construct (.tuple .load) (do
    sym "("
    let elements ← optionalList (do
      let first ← starNamedExpression rules
      sym ","
      return first :: (← optionalList (starNamedExpressions rules)).flatten)
    sym ")"
    return elements.flatten ++ [.ofUsage .load])
  <|> (do
    sym "("
    let e ← yieldExpression rules <|> namedExpression rules
    sym ")"
    return e)
  <|> generator rules

/-- A list, or a list by rule. -/
def bracketed : Parser Tree :=
  construct (.list .load) (do
    sym "["
    let elements ← optionalList (starNamedExpressions rules)
    sym "]"
    return elements.flatten ++ [.ofUsage .load])
  <|> comprehension rules "[" (do return [← namedExpression rules]) "]"

/-- `key: value`. -/
def keyValue : Parser (List Tree × Tree) := do
  let key ← rules .expression
  sym ":"
  return ([key], ← rules .expression)

/-- A dictionary or a set, or one of them by rule. -/
def braced : Parser Tree :=
  plain (do
    sym "\x7b"
    let pairs ← optionalList (do
      let ps ← sepBy1 ((do sym "**"; return ([], ← rules .bitwise)) <|> keyValue rules) (sym ",")
      let _ ← optional (sym ",")
      return ps)
    sym "\x7d"
    return pairs.flatten.flatMap (·.1) ++ pairs.flatten.map (·.2))
  <|> plain (do
    sym "\x7b"
    let elements ← starNamedExpressions rules
    sym "\x7d"
    return elements)
  <|> comprehension rules "\x7b" (do
    let (key, value) ← keyValue rules
    return key ++ [value]) "\x7d"
  <|> comprehension rules "\x7b" (do return [← namedExpression rules]) "\x7d"

/-- A name, a literal, or something in brackets. -/
def atomRule : Parser Tree := do
  let t ← peek
  match t.kind, t.text with
  | .name, _ => name .load
  | .string, _ => rules .strings
  | .number, _ => number
  | .keyword, "True" => literal .true (sym "True")
  | .keyword, "False" => literal .false (sym "False")
  | .keyword, "None" => literal .none (sym "None")
  | .operator, "(" => parenthesized rules
  | .operator, "[" => bracketed rules
  | .operator, "\x7b" => braced rules
  | .operator, "..." => literal .ellipsis (sym "...")
  | _, _ => fail

end SpellLint.Source.Grammar
