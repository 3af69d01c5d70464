import Std.Data.HashMap
import SpellLint.Source.StringLiteral
import SpellLint.Text.Compatibility

/-! # Parsers over tokens

A parser reads tokens from a place on and succeeds, does not match, or refuses the source. Alternatives are
tried in order and the first match is kept. A parser remembers

* what each rule of the grammar gave at each place, so that trying an alternative again costs nothing;
* the furthest token that was looked at, which is what a source without a match is blamed on;
* the first complaint, which says more about such a source than the furthest token.
-/

set_option autoImplicit false

namespace SpellLint.Source.Grammar

open SpellLint.Text

/-! ## Rules -/

/-- The rules of the grammar that refer to each other. -/
inductive Rule where
  | statements
  | block
  | elseIf
  | expression
  | disjunction
  | conjunction
  | inversion
  | bitwise
  | factor
  | primary
  | atom
  | strings
  | arguments
  | starTarget
  | target
  | targetPrimary
  | singleTarget
  | deleteTarget
  | pattern
  | closedPattern
  deriving DecidableEq

namespace Rule

/-- What a rule gives: one tree, or a list of them. -/
@[reducible] def Result : Rule → Type
  | statements => List Tree
  | block => List Tree
  | arguments => List Tree
  | _ => Tree

end Rule

/-! ## Parsers -/

/-- What a rule gave at one place: its result and the place behind it, or no match. -/
structure Memory where
  rule : Rule
  outcome : Option (rule.Result × Nat)

/-- The place of a parser and what it remembers. -/
structure State where
  place : Nat
  furthest : Nat
  complaint : Option SourceError
  memory : Std.HashMap (Nat × Nat) Memory

/-- The tokens of a source, the fault behind the last one, and how embedded expressions are read. -/
structure Input where
  tokens : Array Token
  fault : LexFault
  read : List Char → Position → Except SourceError Tree

/-- The answer of a parser. -/
inductive Reply (α : Type) where
  | found (value : α) (state : State)
  | noMatch (state : State)
  | refused (error : SourceError)

/-- A parser of `α`. -/
def Parser (α : Type) : Type := Input → State → Reply α

namespace Parser

variable {α β : Type}

instance : Monad Parser where
  pure a _ s := .found a s
  bind p f input s :=
    match p input s with
    | .found a s => f a input s
    | .noMatch s => .noMatch s
    | .refused e => .refused e

/-- Does not match. -/
def fail : Parser α := fun _ s => .noMatch s

/-- Refuses the source. -/
def refuse (e : SourceError) : Parser α := fun _ _ => .refused e

/-- The first of two parsers that matches. -/
def or (p : Parser α) (q : Unit → Parser α) : Parser α := fun input s =>
  let place := s.place
  match p input s with
  | .noMatch s => q () input { s with place }
  | reply => reply

instance : OrElse (Parser α) := ⟨or⟩

/-- What `p` finds, if it matches. -/
def optional (p : Parser α) : Parser (Option α) :=
  (do return some (← p)) <|> pure none

/-- What `p` finds, if it matches, as a list. -/
def optionalList (p : Parser α) : Parser (List α) :=
  (do return [← p]) <|> pure []

/-- Matches where `p` does and stays in place. -/
def ahead (p : Parser α) : Parser Unit := fun input s =>
  let place := s.place
  match p input s with
  | .found _ s => .found () { s with place }
  | .noMatch s => .noMatch s
  | .refused e => .refused e

/-- Matches where `p` does not and stays in place. -/
def notAhead (p : Parser α) : Parser Unit := fun input s =>
  let place := s.place
  match p input s with
  | .found _ s => .noMatch s
  | .noMatch s => .found () { s with place }
  | .refused e => .refused e

/-- Improves a value as often as `step` matches, at most `n` times. -/
def improve (step : α → Parser α) : (n : Nat) → α → Parser α
  | 0, a => pure a
  | n + 1, a => fun input s =>
    let place := s.place
    match step a input s with
    | .found a s => improve step n a input s
    | .noMatch s => .found a { s with place }
    | .refused e => .refused e

/-- Improves a value as long as `step` matches. Every step reads a token, so there are no more than tokens. -/
def improving (step : α → Parser α) (a : α) : Parser α := fun input s =>
  improve step (input.tokens.size + 1 - s.place) a input s

/-- As many of `p` as match. -/
def many (p : Parser α) : Parser (List α) := do
  return (← improving (fun found => do return (← p) :: found) []).reverse

/-- One or more of `p`. -/
def many1 (p : Parser α) : Parser (List α) := do
  let first ← p
  return first :: (← many p)

/-- One or more of `p`, separated by `sep`. -/
def sepBy1 (p : Parser α) (sep : Parser β) : Parser (List α) := do
  let first ← p
  return first :: (← many (do let _ ← sep; p))

end Parser

open SpellLint.Source.Grammar.Parser

/-! ## Tokens -/

/-- The next token, which is looked at but not taken. -/
def peek : Parser Token := fun input s =>
  match input.tokens[s.place]? with
  | some t => .found t { s with furthest := max s.furthest s.place }
  | none => .refused input.fault.toSourceError

/-- Takes the next token. -/
def advance : Parser Unit := fun _ s => .found () { s with place := s.place + 1 }

/-- Takes the next token if it passes a test. -/
def satisfy (p : Token → Bool) : Parser Token := do
  let t ← peek
  if p t then advance; return t else fail

/-- Takes a token of a kind. -/
def kind (k : TokenKind) : Parser Token := satisfy (·.kind = k)

/-- Takes an operator, a delimiter or a keyword. -/
def sym (text : String) : Parser Unit := do
  let _ ← satisfy fun t => (t.kind = .operator || t.kind = .keyword) && t.text == text

/-- Takes a word that is a keyword in some places only. -/
def softKeyword (text : String) : Parser Unit := do
  let _ ← satisfy fun t => t.kind = .name && t.text == text

/-- The name that a word stands for. -/
def nameOf (text : String) : String :=
  if text.toList.all (·.toNat < 128) then text else String.ofList (compatibilityForm text.toList)

/-- Takes a name. -/
def ident : Parser String := do
  return nameOf (← kind .name).text

/-- Remembers the first complaint. -/
def complain (e : SourceError) : Parser Unit := fun _ s =>
  .found () { s with complaint := s.complaint.or (some e) }

/-! ## Places -/

/-- The index of the next token. -/
def here : Parser Nat := do
  let _ ← peek
  fun _ s => .found s.place s

/-- Whether a token has a place that constructs may end at. -/
def isSolid (t : Token) : Bool :=
  !(t.kind = .newline || t.kind = .indent || t.kind = .dedent || t.kind = .finish)

/-- The last token before index `n` at which a construct may end. -/
def lastSolid (tokens : Array Token) : Nat → Token
  | 0 => tokens.getD 0 default
  | n + 1 => if isSolid (tokens.getD n default) then tokens.getD n default else lastSolid tokens n

/-- The extent from the token at index `start` to the last one taken. -/
def since (start : Nat) : Parser Extent := fun input s =>
  .found (.between (input.tokens.getD start default).start (lastSolid input.tokens s.place).stop) s

/-- What `p` makes of the extent of what it reads. -/
def placed {α : Type} (p : Parser (Extent → α)) : Parser α := do
  let start ← here
  let f ← p
  return f (← since start)

/-- A tree of a form with the parts that `p` reads. -/
def construct (form : Form) (p : Parser (List Tree)) : Parser Tree :=
  placed do
    let parts ← p
    return fun e => .node form (some e) parts

/-- A tree without a form of its own. -/
def plain (p : Parser (List Tree)) : Parser Tree := construct .plain p

/-- A name with a usage. -/
def name (u : Usage) : Parser Tree :=
  placed do
    let id ← ident
    return fun e => .ofName id u (some e)

/-- Operands joined by operators, grouped from the left. -/
def leftGrouped (operator : Parser Unit) (operand : Parser Tree) : Parser Tree := do
  let start ← here
  let first ← operand
  improving (fun left => do
    operator
    let right ← operand
    return .node .plain (some (← since start)) [left, .unplaced [], right]) first

/-! ## Memory -/

/-- Reads a rule with `p` and remembers what it gives. -/
def readAnew (r : Rule) (p : Parser r.Result) : Parser r.Result := fun input s =>
  let place := s.place
  match p input s with
  | .found a s => .found a { s with memory := s.memory.insert (place, r.ctorIdx) ⟨r, some (a, s.place)⟩ }
  | .noMatch s => .noMatch { s with memory := s.memory.insert (place, r.ctorIdx) ⟨r, none⟩ }
  | .refused e => .refused e

/-- What a rule gives at this place, read by `p` unless it is known. -/
def remember (r : Rule) (p : Parser r.Result) : Parser r.Result := fun input s =>
  match s.memory[(s.place, r.ctorIdx)]? with
  | some m =>
    if h : m.rule = r then
      match m.outcome with
      | some (a, next) => .found (h ▸ a) { s with place := next }
      | none => .noMatch s
    else readAnew r p input s
  | none => readAnew r p input s

/-- The rules of the grammar, each of them read to any depth. -/
abbrev Rules := (r : Rule) → Parser r.Result

end SpellLint.Source.Grammar
