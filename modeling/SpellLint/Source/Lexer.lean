import SpellLint.Source.Number
import SpellLint.Source.Token
import SpellLint.Text.Identifier
import SpellLint.Text.Printable

/-! # The lexer

Cuts a source into tokens. Line ends are unified first and the last line gets an end. Outside brackets, the
depth of a line that holds more than blanks and comments is compared with the open blocks; inside brackets, line
ends and depths mean nothing. A lexer that meets a fault keeps the tokens in front of it: whether the fault is
what is wrong with the source depends on whether the grammar accepts these tokens.
-/

set_option autoImplicit false

namespace SpellLint.Source

open SpellLint.Text

/-! ## Line ends -/

/-- One more character in front of a text whose first character and unified form are known. -/
def consUnified (c : Char) (rest : Option Char × List Char) : Option Char × List Char :=
  (some c, if c = '\r' then (if rest.1 = some '\n' then rest.2 else '\n' :: rest.2) else c :: rest.2)

/-- The text with a line feed for every line end. -/
def unifyLineEnds (cs : List Char) : List Char :=
  (cs.foldr consUnified (none, [])).2

/-- Whether a text ends in a carriage return and a line feed. -/
def endsInDoubleLineEnd (cs : List Char) : Bool :=
  "\r\n".toList.isSuffixOf cs

/-- The text with line feeds for line ends and an end to its last line. A double line end at the very end of the
text counts as an end and one more empty line. -/
def unify (cs : List Char) : List Char :=
  let unified := unifyLineEnds cs
  if unified.getLast? = some '\n' && !endsInDoubleLineEnd cs then unified else unified ++ ['\n']

/-! ## Depth of a line -/

/-- The depth of a line for tabs that fill up to eight columns, and for tabs of one column. -/
structure Depth where
  wide : Nat
  narrow : Nat
  deriving DecidableEq, Repr, Inhabited

/-- The blanks in front of a line: its depth, the number of characters, and the rest. A form feed starts the
count again. A continued line has the depth at which its first part, if that is not zero, was continued. -/
def measureDepth (n continued : Nat) (d : Depth) : List Char → Except LexFault (Depth × Reach)
  | ' ' :: cs => measureDepth (n + 1) continued ⟨d.wide + 1, d.narrow + 1⟩ cs
  | '\t' :: cs => measureDepth (n + 1) continued ⟨(d.wide / 8 + 1) * 8, d.narrow + 1⟩ cs
  | '\x0c' :: cs => measureDepth (n + 1) continued ⟨0, 0⟩ cs
  | '\\' :: cs =>
    match cs with
    | '\n' :: ds =>
      if ds.isEmpty then .error (.cutShort none)
      else measureDepth (n + 2) (if continued = 0 then d.wide else continued) d ds
    | _ => .error (.cutShort none)
  | cs => .ok (if continued = 0 then d else ⟨continued, continued⟩, n, cs)

/-! ## The state of the lexer -/

/-- An open bracket and its line. -/
structure OpenBracket where
  bracket : Char
  line : Nat

/-- What is left of a source, where it starts, and what is open there. -/
structure LexState where
  rest : List Char
  place : Position
  lineStart : Bool
  blocks : List Depth
  brackets : List OpenBracket
  tokens : Array Token

/-- The tokens of a source, and the fault that ended them, if one did. -/
structure Lexed where
  tokens : Array Token
  fault : Option LexFault

namespace LexState

/-- The state behind the next `n` characters, of which `rest` follows. -/
def skip (s : LexState) (n : Nat) (rest : List Char) : LexState :=
  { s with rest, place := s.place.afterAll (s.rest.take n) }

/-- The state behind a token of the next `n` characters. -/
def take (s : LexState) (kind : TokenKind) (n : Nat) (rest : List Char) : LexState :=
  let chars := s.rest.take n
  let stop := s.place.afterAll chars
  { s with rest, place := stop, tokens := s.tokens.push ⟨kind, String.ofList chars, s.place, stop⟩ }

/-- Adds a token without characters. -/
def mark (s : LexState) (kind : TokenKind) : LexState :=
  { s with tokens := s.tokens.push ⟨kind, "", s.place, s.place⟩ }

/-- The fault of a text that ends too early. -/
def cutShort (s : LexState) : LexFault :=
  .cutShort (s.brackets.head?.map (·.line))

end LexState

/-- The most blocks that may be open. -/
def maxBlocks : Nat := 100

/-- The most brackets that may be open. -/
def maxBrackets : Nat := 200

/-- Closes the blocks that are deeper than a line. -/
def closeBlocks (s : LexState) (d : Depth) : List Depth → LexState
  | [] => { s with blocks := [] }
  | b :: bs => if d.wide < b.wide then closeBlocks (s.mark .dedent) d bs else { s with blocks := b :: bs }

/-- Compares the depth of a line with the open blocks: opens one block, closes some, or leaves them. -/
def compareDepth (s : LexState) (d : Depth) : Except LexFault LexState :=
  let top := s.blocks.headD ⟨0, 0⟩
  if d.wide = top.wide then
    if d.narrow = top.narrow then .ok s else .error .tabs
  else if d.wide > top.wide then
    if s.blocks.length + 1 ≥ maxBlocks then .error .tooDeep
    else if d.narrow ≤ top.narrow then .error .tabs
    else .ok { s.mark .indent with blocks := d :: s.blocks }
  else
    let closed := closeBlocks s d s.blocks
    let top := closed.blocks.headD ⟨0, 0⟩
    if d.wide ≠ top.wide then .error .unmatchedDedent
    else if d.narrow ≠ top.narrow then .error .tabs
    else .ok closed

/-! ## Tokens -/

/-- The number of characters up to the end of a string in one pair of quotes. -/
def closeString (quote : Char) (n : Nat) : List Char → Option Reach
  | [] => none
  | '\\' :: cs =>
    match cs with
    | [] => none
    | _ :: ds => closeString quote (n + 2) ds
  | c :: cs => if c = '\n' then none else if c = quote then some (n + 1, cs) else closeString quote (n + 1) cs

/-- The number of characters up to the end of a string in three pairs of quotes; `seen` quotes stand in front. -/
def closeTripleString (quote : Char) (n seen : Nat) : List Char → Option Reach
  | [] => none
  | '\\' :: cs =>
    match cs with
    | [] => none
    | _ :: ds => closeTripleString quote (n + 2) 0 ds
  | c :: cs =>
    if c = quote then
      if seen = 2 then some (n + 1, cs) else closeTripleString quote (n + 1) (seen + 1) cs
    else closeTripleString quote (n + 1) 0 cs

/-- How far the string reaches whose quotes start behind `n` characters. -/
def stringReach (n : Nat) : List Char → Option Reach
  | q :: q₁ :: q₂ :: cs =>
    if q₁ = q then
      if q₂ = q then closeTripleString q (n + 3) 0 cs else some (n + 2, q₂ :: cs)
    else closeString q (n + 1) (q₁ :: q₂ :: cs)
  | [q, q₁] => if q₁ = q then some (n + 2, []) else none
  | _ => none

/-- The letters in front of a string: `b`, `f`, `r` and `u`, where only `r` may be added to `b` or `f`. -/
def stringLetters : List String :=
  ["", "b", "f", "r", "u", "br", "rb", "fr", "rf"]

/-- The number of characters in front of the quotes of a string at the front of a text. -/
def quoteOffset (cs : List Char) : Option Nat :=
  let isQuote (c : Char) := c == '\'' || c == '"'
  let letters := (cs.take 3).takeWhile (!isQuote ·)
  if (cs.drop letters.length).head?.any isQuote &&
      stringLetters.contains (String.ofList (letters.map Char.toLower)) then
    some letters.length
  else none

/-- Whether a word is an identifier. -/
def isIdentifier : List Char → Bool
  | [] => false
  | c :: cs => isIdentifierStart c && cs.all isIdentifierPart

/-- The number of characters of the operator at the front of a text. -/
def operatorLength (cs : List Char) : Nat :=
  if "...".toList.isPrefixOf cs || longestOperators.any (·.toList.isPrefixOf cs) then 3
  else if longOperators.any (·.toList.isPrefixOf cs) then 2
  else 1

/-- The bracket that a closing one closes. -/
def openingOf (c : Char) : Option Char :=
  if c = ')' then some '(' else if c = ']' then some '[' else if c = '}' then some '{' else none

/-- Takes an operator or a bracket. -/
def takeOperator (s : LexState) (c : Char) (cs : List Char) : Except LexFault LexState :=
  let n := operatorLength (c :: cs)
  let taken := s.take .operator n ((c :: cs).drop n)
  if n > 1 then .ok taken
  else if c = '(' || c = '[' || c = '{' then
    if s.brackets.length ≥ maxBrackets then .error .malformed
    else .ok { taken with brackets := ⟨c, s.place.line⟩ :: s.brackets }
  else
    match openingOf c with
    | some o =>
      match s.brackets with
      | b :: bs => if b.bracket = o then .ok { taken with brackets := bs } else .error .malformed
      | [] => .error .malformed
    | none => if isPrintable c then .ok taken else .error .malformed

/-- Takes a string, a word, a number or an operator. -/
def takeToken (s : LexState) (c : Char) (cs : List Char) : Except LexFault LexState :=
  match quoteOffset (c :: cs) with
  | some n =>
    match stringReach n ((c :: cs).drop n) with
    | some (m, rest) => .ok (s.take .string m rest)
    | none => .error .malformed
  | none =>
    if isWordStart c then
      let word := (c :: cs).takeWhile isWordPart
      if word.all (·.toNat < 128) || isIdentifier word then
        let kind := if keywords.contains (String.ofList word) then TokenKind.keyword else .name
        .ok (s.take kind word.length ((c :: cs).drop word.length))
      else .error .malformed
    else if c.isDigit || (c = '.' && cs.head?.any Char.isDigit) then
      match if c = '.' then afterPoint (1, cs) else numberReach (c :: cs) with
      | some (n, rest) => .ok (s.take .number n rest)
      | none => .error .malformed
    else takeOperator s c cs

/-! ## The run -/

/-- Whether a line holds nothing but a comment or nothing at all. -/
def isIdle : List Char → Bool
  | c :: _ => c = '#' || c = '\n'
  | [] => false

/-- Reads up to the next token, a line end or the end of the text. A state without an error flag goes on. -/
def lexStep (s : LexState) : Except (LexState × Option LexFault) LexState :=
  if s.lineStart then
    match measureDepth 0 0 ⟨0, 0⟩ s.rest with
    | .error f => .error (s, some (match f with | .cutShort _ => s.cutShort | f => f))
    | .ok (d, n, rest) =>
      let next := { s.skip n rest with lineStart := false }
      if isIdle rest then
        let comment := rest.takeWhile (· ≠ '\n')
        let behind := rest.drop comment.length
        match behind with
        | _ :: more => .ok { next.skip (comment.length + 1) more with lineStart := true }
        | [] => .ok (next.skip comment.length [])
      else if next.brackets.isEmpty then
        match compareDepth next d with
        | .ok t => .ok t
        | .error f => .error (next, some f)
      else .ok next
  else
    match s.rest with
    | [] =>
      if s.brackets.isEmpty then .error (s.mark .finish, none) else .error (s, some s.cutShort)
    | '\n' :: cs =>
      let next := { s with rest := cs, place := s.place.after '\n', lineStart := true }
      .ok (if s.brackets.isEmpty then
        { next with tokens := s.tokens.push ⟨.newline, "\n", s.place, s.place⟩ } else next)
    | '\\' :: cs =>
      match cs with
      | '\n' :: d :: ds => .ok (s.skip 2 (d :: ds))
      | _ => .error (s, some s.cutShort)
    | c :: cs =>
      if c = ' ' || c = '\t' || c = '\x0c' then .ok (s.skip 1 cs)
      else if c = '#' then
        let comment := (c :: cs).takeWhile (· ≠ '\n')
        .ok (s.skip comment.length ((c :: cs).drop comment.length))
      else
        match takeToken s c cs with
        | .ok t => .ok t
        | .error f => .error (s, some f)

/-- Reads to the end of the text, in at most so many steps. -/
def lexFrom : (steps : Nat) → LexState → Lexed
  | 0, s => ⟨s.tokens, some .malformed⟩
  | steps + 1, s =>
    match lexStep s with
    | .ok t => lexFrom steps t
    | .error (t, fault) => ⟨t.tokens, fault⟩

/-- The tokens of a source whose first character stands at `place`. -/
def lexAt (place : Position) (cs : List Char) : Lexed :=
  let text := unify cs
  lexFrom (2 * text.length + 2) ⟨text, place, true, [], [], #[]⟩

/-- The tokens of a source. -/
def lex (cs : List Char) : Lexed := lexAt .first cs

end SpellLint.Source
