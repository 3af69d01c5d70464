import SpellLint.Span
import SpellLint.Text.Blank

/-! # The lines of a source text

A table of the lines of a text with the offset at which each of them starts. Syntax is located by a line number
and a column that counts the bytes of UTF-8; readers are shown a line and a column in characters; everything in
between uses character offsets. The table converts between the three.

A line ends at a line feed, at a carriage return, or at both together, and keeps its end.
-/

set_option autoImplicit false

namespace SpellLint.Source

open SpellLint.Text

/-! ## Cutting a text into lines -/

/-- One more character in front of a text whose first character and lines are known. It ends a line if it is a
line feed, or a carriage return that no line feed follows. -/
def consSourceLine (c : Char) (rest : Option Char × List (List Char)) : Option Char × List (List Char) :=
  (some c,
    if c = '\n' ∨ (c = '\r' ∧ rest.1 ≠ some '\n') then [c] :: rest.2 else consFirst c rest.2)

/-- The lines of a text with their ends; none of them is empty. -/
def cutLines (cs : List Char) : List (List Char) :=
  (cs.foldr consSourceLine (none, [])).2

/-- The offsets at which consecutive lines start, if the first starts at `offset`. -/
def lineStarts (offset : Nat) : List (List Char) → List Nat
  | [] => []
  | line :: lines => offset :: lineStarts (offset + line.length) lines

/-! ## The table -/

/-- The lines of a text, the offsets where they start, and the length of the text. -/
structure LineTable where
  lines : Array (List Char)
  starts : Array Nat
  length : Nat

namespace LineTable

/-- The table of a text. -/
def ofChars (cs : List Char) : LineTable :=
  let lines := cutLines cs
  ⟨lines.toArray, (lineStarts 0 lines).toArray, cs.length⟩

/-- The table of a text. -/
def ofString (text : String) : LineTable := ofChars text.toList

/-- The number of lines. -/
def count (t : LineTable) : Nat := t.lines.size

/-- The index of the line that holds an offset; later offsets are in the last line. There is none before the
first line, and none in the empty text. -/
def lineOf (t : LineTable) (offset : Int) : Option Nat :=
  if offset < 0 then none
  else
    match countAtMost (fun i => t.starts.getD i 0) t.starts.size offset.toNat with
    | 0 => none
    | n + 1 => some n

/-- The line and the column of an offset, both from 0. -/
def lineColumn (t : LineTable) (offset : Int) : Nat × Int :=
  match t.lineOf offset with
  | some i => (i, offset - t.starts.getD i 0)
  | none => (0, 0)

/-- Where a span starts and ends, for a reader: lines and columns count from 1. -/
def location (t : LineTable) (path : String) (span : Span) : String :=
  let (l₁, c₁) := t.lineColumn span.start
  let (l₂, c₂) := t.lineColumn span.stop
  s!"{path}:{l₁ + 1}:{c₁ + 1}: {l₂ + 1}:{c₂ + 1}"

/-- The first line that a span covers, without its end. -/
def firstLine (t : LineTable) (span : Span) : Option String :=
  (t.lineOf span.start).bind fun i =>
    t.lines[i]?.map fun line => String.ofList (dropEndWhile (fun c => c == '\r' || c == '\n') line)

end LineTable

/-! ## Positions of syntax -/

/-- How many characters fit whole into so many bytes of UTF-8. -/
def charsWithin : (bytes : Nat) → List Char → Nat
  | _, [] => 0
  | bytes, c :: cs => if c.utf8Size ≤ bytes then charsWithin (bytes - c.utf8Size) cs + 1 else 0

/-- The number of bytes of a text in UTF-8. -/
def byteLength (cs : List Char) : Nat :=
  cs.foldl (fun n c => n + c.utf8Size) 0

/-- Where a piece of syntax starts and, if known, ends: lines count from 1, columns count bytes. A column that
is missing or negative counts from the end of its line. -/
structure Extent where
  line : Int
  column : Option Int
  endLine : Option Int
  endColumn : Option Int
  deriving Repr, DecidableEq

namespace LineTable

/-- The offset of a line and a column in bytes. A column inside a character rounds down, one past the end of the
line is the end of the line, and a line past the end of the text is the end of the text. -/
def offset (t : LineTable) (line : Int) (column : Option Int) : Nat :=
  if line ≤ 0 then 0
  else
    match t.lines[(line - 1).toNat]? with
    | none => t.length
    | some cs =>
      let bytes : Nat :=
        match column with
        | some k => if k < 0 then (byteLength cs + k).toNat else k.toNat
        | none => byteLength cs
      t.starts.getD (line - 1).toNat 0 + charsWithin bytes cs

/-- The span of a piece of syntax. A missing or zero end line is the line of its start, a missing end column
leaves the span empty, and an end before the start is moved to it. -/
def spanOf (t : LineTable) (e : Extent) : Span :=
  let start := t.offset e.line e.column
  let stop :=
    match e.endColumn with
    | some column =>
      t.offset (match e.endLine with | some l => if l = 0 then e.line else l | none => e.line) (some column)
    | none => start
  ⟨start, max start stop⟩

end LineTable

end SpellLint.Source
