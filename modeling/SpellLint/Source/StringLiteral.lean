import SpellLint.Source.Escape
import SpellLint.Source.Lexer
import SpellLint.Source.Syntax

/-! # String literals

What a row of adjacent string literals stands for. Literals of text are joined into one; a literal marked with
`f` is interpolated: expressions between braces are read with the grammar, and the row becomes a joined text with
the pieces between them. Literals of bytes and of text do not mix.
-/

set_option autoImplicit false

namespace SpellLint.Source

/-! ## The parts of a literal -/

/-- A string literal: the letters in front of it, in lower case, and what its quotes enclose. -/
structure StringLiteral where
  letters : List Char
  body : List Char
  /-- The number of characters in front of the body. -/
  offset : Nat

namespace StringLiteral

/-- The parts of the literal that is the text of a token. -/
def ofChars (cs : List Char) : StringLiteral :=
  let letters := cs.takeWhile (fun c => c ≠ '\'' && c ≠ '"')
  let quoted := cs.drop letters.length
  let width :=
    match quoted with
    | a :: b :: c :: _ :: _ :: _ => if a = b && b = c then 3 else 1
    | _ => 1
  ⟨letters.map Char.toLower, (quoted.drop width).take (quoted.length - 2 * width), letters.length + width⟩

/-- Whether backslashes are ordinary characters. -/
def isRaw (l : StringLiteral) : Bool := l.letters.contains 'r'

/-- Whether the literal holds bytes. -/
def isBytes (l : StringLiteral) : Bool := l.letters.contains 'b'

/-- Whether the literal is interpolated. -/
def isInterpolated (l : StringLiteral) : Bool := l.letters.contains 'f'

end StringLiteral

/-! ## Interpolated text -/

/-- A rest of a literal and where it starts. -/
structure Remainder where
  chars : List Char
  place : Position

/-- The rest behind the next `n` characters, which is `chars`. -/
def Remainder.skip (r : Remainder) (n : Nat) (chars : List Char) : Remainder :=
  ⟨chars, r.place.afterAll (r.chars.take n)⟩

/-- How the plain text of an interpolated literal ends. -/
inductive PlainEnd where
  /-- At a doubled brace, the first of which belongs to it; more text follows. -/
  | doubled
  /-- At a brace or at the end of the literal. -/
  | stop
  deriving DecidableEq

/-- The plain text at the front of an interpolated literal: its end, its characters, and the number of characters
it takes with a doubled brace. Inside a format braces are not doubled. -/
def plainText (raw nested : Bool) (n : Nat) (taken : List Char) : List Char → Option (PlainEnd × List Char × Nat)
  | [] => some (.stop, taken.reverse, n)
  | c :: cs =>
    if c = '{' || c = '}' then
      if nested then some (.stop, taken.reverse, n)
      else if cs.head? = some c then some (.doubled, (c :: taken).reverse, n + 2)
      else if c = '}' then none
      else some (.stop, taken.reverse, n)
    else if c = '\\' && !raw then
      match cs with
      | [] => some (.stop, (c :: taken).reverse, n + 1)
      | d :: ds =>
        if d = '{' || d = '}' then plainText raw nested (n + 1) (c :: taken) (d :: ds)
        else if d = 'N' then
          match ds with
          | [] => some (.stop, (d :: c :: taken).reverse, n + 2)
          | e :: es =>
            if e = '{' then skipName (n + 3) (e :: d :: c :: taken) es
            else plainText raw nested (n + 3) (e :: d :: c :: taken) es
        else plainText raw nested (n + 2) (d :: c :: taken) ds
    else plainText raw nested (n + 1) (c :: taken) cs
where
  /-- The text behind the brace that starts a character's name. -/
  skipName (n : Nat) (taken : List Char) : List Char → Option (PlainEnd × List Char × Nat)
    | [] => some (.stop, taken.reverse, n)
    | c :: cs => if c = '}' then plainText raw nested (n + 1) (c :: taken) cs else skipName (n + 1) (c :: taken) cs

/-- The kind of string that an embedded expression is inside of. -/
structure OpenString where
  quote : Char
  triple : Bool

/-- The characters of an embedded expression and what follows them: `!`, `:`, `=` or a closing brace, outside all
brackets and strings. Backslashes and comments are refused. -/
def embedded (string : Option OpenString) (brackets : List Char) (taken : List Char) :
    List Char → Option (List Char × List Char)
  | [] => none
  | c :: cs =>
    if c = '\\' then none
    else
      match string with
      | some s =>
        if c ≠ s.quote then embedded string brackets (c :: taken) cs
        else if !s.triple then embedded none brackets (c :: taken) cs
        else
          match cs with
          | d :: e :: rest =>
            if d = c && e = c then embedded none brackets (e :: d :: c :: taken) rest
            else embedded string brackets (c :: taken) (d :: e :: rest)
          | rest => embedded string brackets (c :: taken) rest
      | none =>
        if c = '\'' || c = '"' then
          match cs with
          | d :: e :: rest =>
            if d = c && e = c then embedded (some ⟨c, true⟩) brackets (e :: d :: c :: taken) rest
            else embedded (some ⟨c, false⟩) brackets (c :: taken) (d :: e :: rest)
          | rest => embedded (some ⟨c, false⟩) brackets (c :: taken) rest
        else if c = '(' || c = '[' || c = '{' then
          if brackets.length ≥ maxBrackets then none else embedded none (c :: brackets) (c :: taken) cs
        else if c = '#' then none
        else if brackets.isEmpty && (c = '!' || c = ':' || c = '}' || c = '=' || c = '<' || c = '>') then
          match cs with
          | d :: rest =>
            if d = '=' && (c = '!' || c = '=' || c = '<' || c = '>') then
              embedded none brackets (d :: c :: taken) rest
            else if c = '<' || c = '>' then embedded none brackets (c :: taken) (d :: rest)
            else some (taken.reverse, c :: d :: rest)
          | [] => if c = '<' || c = '>' then none else some (taken.reverse, [c])
        else
          match openingOf c with
          | some o =>
            match brackets with
            | b :: bs => if b = o then embedded none bs (c :: taken) cs else none
            | [] => none
          | none => embedded none brackets (c :: taken) cs

/-- Blanks that may stand around an embedded expression. -/
def isInnerBlank (c : Char) : Bool :=
  c == ' ' || c == '\t' || c == '\n' || c == '\x0c' || c == '\r' || c == '\x0b'

/-- Where an embedded expression starts for the grammar, whose opening brace is at `brace` in a literal at
`start`. If nothing but a line end follows the brace, the column is that of the line's or the literal's start. -/
def embeddedPlace (start brace : Position) (expression : List Char) : Position :=
  if (expression.dropWhile (fun c => c = ' ' || c = '\t' || c = '\x0c')).head? = some '\n' then
    ⟨brace.line, if brace.line = start.line then start.column else 0⟩
  else brace

/-- A piece of an interpolated literal. -/
inductive Piece where
  | text (chars : List Char)
  | field (tree : Tree)

/-- Adds text to pieces in reverse; empty text adds nothing. -/
def addText (chars : List Char) (pieces : List Piece) : List Piece :=
  if chars.isEmpty then pieces
  else
    match pieces with
    | .text before :: rest => .text (before ++ chars) :: rest
    | rest => .text chars :: rest

/-- What interpolation depends on: how expressions are read, and the places of the literal and of its row. -/
structure Interpolation where
  read : List Char → Position → Except SourceError Tree
  raw : Bool
  start : Position
  row : Extent
  own : Extent

/-- A text literal as a tree. -/
def textTree (e : Extent) (chars : List Char) : Tree :=
  .node (.literal (.text (String.ofList chars))) (some e) []

/-- The trees of pieces in reverse. A text in front of a field has the place of the row, one at the end its own. -/
def pieceTrees (row last : Extent) : List Piece → List Tree
  | [] => []
  | .text chars :: rest => ((rest.map (pieceTree row)).reverse) ++ [textTree last chars]
  | pieces => (pieces.map (pieceTree row)).reverse
where
  /-- The tree of one piece. -/
  pieceTree (e : Extent) : Piece → Tree
    | .text chars => textTree e chars
    | .field t => t

/-- What escapes stand for, unless the literal is raw. -/
def decodeText (raw : Bool) (chars : List Char) : Except SourceError (List Char) :=
  if raw then .ok chars
  else
    match unescape chars with
    | some text => .ok text
    | none => .error .malformed

/-- Reads the pieces of an interpolated literal up to its end or, in a format, up to the brace that ends it. The
pieces are in reverse; `level` counts the formats around. -/
def interpolate (i : Interpolation) :
    (steps level : Nat) → List Piece → Remainder → Except SourceError (List Piece × Remainder)
  | 0, _, _, _ => .error .malformed
  | steps + 1, level, pieces, r => do
    let some (ending, chars, n) := plainText i.raw (level > 0) 0 [] r.chars | .error .malformed
    let pieces := addText (← decodeText i.raw chars) pieces
    let r := r.skip n (r.chars.drop n)
    if ending = .doubled then interpolate i steps level pieces r
    else
      match r.chars with
      | [] => return (pieces, r)
      | c :: cs =>
        if c = '}' then return (pieces, r)
        else if level ≥ 2 then .error .malformed
        else
          let some (expression, rest) := embedded none [] [] cs | .error .malformed
          if expression.all isInnerBlank then .error .malformed
          else
            let value ← i.read ('(' :: expression ++ [')']) (embeddedPlace i.start r.place expression)
            let r := r.skip (expression.length + 1) rest
            let (pieces, r) :=
              match r.chars with
              | '=' :: after =>
                let blanks := after.takeWhile isInnerBlank
                (addText (expression ++ '=' :: blanks) pieces,
                  r.skip (blanks.length + 1) (after.drop blanks.length))
              | _ => (pieces, r)
            let r ← match r.chars with
              | '!' :: k :: after =>
                if k = 's' || k = 'r' || k = 'a' then pure (r.skip 2 after) else .error .malformed
              | '!' :: [] => .error .malformed
              | _ => pure r
            let (format, r) ← match r.chars with
              | ':' :: after => do
                if after.isEmpty then .error .malformed
                let (inner, r) ← interpolate i steps (level + 1) [] (r.skip 1 after)
                pure ([Tree.node .plain (some i.own) (pieceTrees i.row i.own inner)], r)
              | _ => pure ([], r)
            match r.chars with
            | '}' :: after =>
              interpolate i steps level (.field (.node .plain (some i.row) (value :: format)) :: pieces)
                (r.skip 1 after)
            | _ => .error .malformed

/-! ## Rows of literals -/

/-- The pieces that a row of tokens adds to those in front of it, in reverse. -/
def rowPieces (read : List Char → Position → Except SourceError Tree) (row : Extent) :
    List Piece → List Token → Except SourceError (List Piece)
  | pieces, [] => .ok pieces
  | pieces, t :: ts => do
    let l := StringLiteral.ofChars t.text.toList
    if l.isInterpolated then
      let place := t.start.afterAll (t.text.toList.take l.offset)
      let own := Extent.between t.start t.stop
      let (pieces, r) ←
        interpolate ⟨read, l.isRaw, t.start, row, own⟩ (2 * l.body.length + 2) 0 pieces ⟨l.body, place⟩
      if r.chars.isEmpty then rowPieces read row pieces ts else .error .malformed
    else rowPieces read row (addText (← decodeText l.isRaw l.body) pieces) ts

/-- Whether a literal of bytes is well-formed: ASCII characters and complete escapes. -/
def bytesAreValid (l : StringLiteral) : Bool :=
  l.body.all (·.toNat < 128) && (l.isRaw || bytesAreComplete l.body)

/-- The tree of a row of string literals. -/
def rowTree (read : List Char → Position → Except SourceError Tree) (tokens : List Token) (row : Extent) :
    Except SourceError Tree := do
  let literals := tokens.map (StringLiteral.ofChars ·.text.toList)
  if literals.all (·.isBytes) then
    if literals.all bytesAreValid then .ok (.node (.literal .bytes) (some row) []) else .error .malformed
  else if literals.any (·.isBytes) then .error .malformed
  else
    let pieces ← rowPieces read row [] tokens
    if literals.any (·.isInterpolated) then
      .ok (.node .plain (some row) (pieceTrees row row pieces))
    else
      match pieces with
      | [.text chars] => .ok (textTree row chars)
      | _ => .ok (textTree row [])

end SpellLint.Source
