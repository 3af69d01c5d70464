/-! # Tokens of the checked language

What the lexer produces and the grammar consumes. Besides words, numbers, strings and operators there are tokens
for the ends of logical lines and for the changes of indentation that open and close blocks.
-/

set_option autoImplicit false

namespace SpellLint.Source

/-- A place in a source: the line counts from 1, the column counts bytes from 0. -/
structure Position where
  line : Nat
  column : Nat
  deriving DecidableEq, Repr, Inhabited

namespace Position

/-- The start of a text. -/
def first : Position := ⟨1, 0⟩

/-- The place behind a character. -/
def after (p : Position) (c : Char) : Position :=
  if c = '\n' then ⟨p.line + 1, 0⟩ else ⟨p.line, p.column + c.utf8Size⟩

/-- The place behind a text. -/
def afterAll (p : Position) (cs : List Char) : Position :=
  cs.foldl after p

end Position

/-- The kinds of tokens. -/
inductive TokenKind where
  | name
  | keyword
  | number
  | string
  | operator
  | newline
  | indent
  | dedent
  | finish
  deriving DecidableEq, Repr, Inhabited

/-- A token with its text and the places where it starts and ends. -/
structure Token where
  kind : TokenKind
  text : String
  start : Position
  stop : Position
  deriving Repr, Inhabited

/-- Why a source is refused. -/
inductive SourceError where
  /-- It holds a null character. -/
  | nullCharacter
  /-- Blocks are indented with tabs and spaces in an order that leaves their depth open. -/
  | tabs
  /-- The indentation is wrong, or missing. -/
  | indentation
  /-- It is not in the language for any other reason. -/
  | malformed
  deriving DecidableEq, Repr

/-- Why the lexer stops before the end of a source. -/
inductive LexFault where
  /-- The depth of a line depends on the width of a tab. -/
  | tabs
  /-- A line is not as deep as any open block. -/
  | unmatchedDedent
  /-- Blocks are nested too deeply. -/
  | tooDeep
  /-- A character, literal or bracket is wrong. -/
  | malformed
  /-- A continuation is broken or the text ends inside brackets; the line of the innermost open bracket. -/
  | cutShort (opened : Option Nat)
  deriving DecidableEq, Repr

/-- What a fault means to a parser that meets it. -/
def LexFault.toSourceError : LexFault → SourceError
  | .tabs => .tabs
  | .unmatchedDedent => .indentation
  | .tooDeep => .indentation
  | .malformed => .malformed
  | .cutShort _ => .malformed

/-- The words that are no names. -/
def keywords : List String :=
  ["False", "None", "True", "and", "as", "assert", "async", "await", "break", "class", "continue", "def", "del",
    "elif", "else", "except", "finally", "for", "from", "global", "if", "import", "in", "is", "lambda",
    "nonlocal", "not", "or", "pass", "raise", "return", "try", "while", "with", "yield"]

/-- The operators and delimiters of two characters. -/
def longOperators : List String :=
  ["!=", "%=", "&=", "**", "*=", "+=", "-=", "->", "//", "/=", ":=", "<<", "<=", "<>", "==", ">=", ">>", "@=",
    "^=", "|="]

/-- The operators and delimiters of three characters that continue one of two. -/
def longestOperators : List String := ["**=", "//=", "<<=", ">>="]

end SpellLint.Source
