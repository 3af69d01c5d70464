import SpellLint.Source.Grammar.Statement

/-! # Reading a module

The rules of the grammar tied together, and the reading of whole sources and of embedded expressions. A source
that does not match is blamed on the first complaint, or else on the furthest token that was looked at.
-/

set_option autoImplicit false

namespace SpellLint.Source.Grammar

open SpellLint.Source.Grammar.Parser

/-! ## The rules together -/

/-- What each rule reads. -/
def define (rules : Rules) : Rules
  | .statements => statementsRule rules
  | .block => blockRule rules
  | .elseIf => conditional rules "elif"
  | .expression => expressionRule rules
  | .disjunction => logical "or" (rules .conjunction)
  | .conjunction => logical "and" (rules .inversion)
  | .inversion => inversionRule rules
  | .bitwise => bitwiseRule rules
  | .factor => factorRule rules
  | .primary => primaryRule rules
  | .atom => atomRule rules
  | .strings => stringsRule
  | .arguments => argumentList rules
  | .starTarget => starTargetRule rules
  | .target => targetRule rules
  | .targetPrimary => targetPrimaryRule rules
  | .singleTarget => singleTargetRule rules
  | .deleteTarget => deleteTargetRule rules
  | .pattern => patternRule rules
  | .closedPattern => closedPatternRule rules

/-- The rules, referring to each other at most `depth` deep. -/
def rulesTo : (depth : Nat) → Rules
  | 0, _ => Parser.fail
  | depth + 1, r => remember r (define (rulesTo depth) r)

/-- A depth that no source of so many tokens exceeds: between two tokens that are taken, fewer rules than there
are refer to each other. -/
def depthFor (tokens : Nat) : Nat := 24 * (tokens + 1)

/-! ## Blame -/

/-- What is wrong with a source in which an indented block is missing: what the lexer has against the rest of it,
if it is something that cannot be mended by an indentation. -/
def blameMissingBlock (lexed : Lexed) (furthest : Nat) : SourceError :=
  match lexed.fault with
  | some .malformed => .malformed
  | some (.cutShort (some line)) =>
    if (lexed.tokens.getD furthest default).start.line > line then .malformed else .indentation
  | _ => .indentation

/-- What is wrong with a source that does not match. -/
def blame (lexed : Lexed) (s : State) : SourceError :=
  match s.complaint with
  | some .indentation => blameMissingBlock lexed s.furthest
  | some e => e
  | none =>
    match (lexed.tokens.getD s.furthest default).kind with
    | .indent => .indentation
    | .dedent => .indentation
    | _ => .malformed

/-- Reads tokens with a parser. -/
def run {α : Type} (lexed : Lexed) (read : List Char → Position → Except SourceError Tree)
    (p : Rules → Parser α) : Except SourceError α :=
  let fault := lexed.fault.getD .malformed
  match p (rulesTo (depthFor lexed.tokens.size)) ⟨lexed.tokens, fault, read⟩ ⟨0, 0, none, ∅⟩ with
  | .found a _ => .ok a
  | .noMatch s => .error (blame lexed s)
  | .refused e => .error e

/-! ## Sources and embedded expressions -/

/-- Reads an expression that is embedded in a string; `nested` bounds how deep strings are embedded in it. -/
def readEmbedded : (nested : Nat) → List Char → Position → Except SourceError Tree
  | 0, _, _ => .error .malformed
  | nested + 1, cs, place => run (lexAt place cs) (readEmbedded nested) starExpressions

/-- The statements of a module up to the end of the source. -/
def moduleParser (rules : Rules) : Parser Module := do
  let body ← optionalList (rules .statements)
  let _ ← kind .finish
  return ⟨body.flatten⟩

/-- The module of a source, or what is wrong with it. -/
def readModule (cs : List Char) : Except SourceError Module :=
  if cs.contains '\x00' then .error .nullCharacter
  else run (lex cs) (readEmbedded (cs.length + 1)) moduleParser

end SpellLint.Source.Grammar
