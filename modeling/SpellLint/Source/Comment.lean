import SpellLint.Node
import SpellLint.Source.Lines
import SpellLint.Source.Number
import SpellLint.Text.Alphanumeric
import SpellLint.Text.Case

/-! # Comments

Comments are found by a scan of their own, line by line. It knows strings, brackets and indentation, but not the
grammar. For this scan only a line feed ends a line; a carriage return elsewhere is an ordinary character, except
that a comment inside a statement ends at it and that a line which starts with it is skipped.

Comments that tell tools something are no prose and are left out.
-/

set_option autoImplicit false

namespace SpellLint.Source

open SpellLint.Text

/-! ## What is found -/

/-- A comment with its number sign: the index of its row, its column, and its text. -/
structure Comment where
  row : Nat
  column : Nat
  text : List Char

/-- Why a scan ends early. -/
inductive ScanFault where
  /-- The text ends inside a string, in brackets, or behind a continuation. -/
  | unfinished
  /-- A line is not as deep as any line around it. -/
  | indentation
  deriving DecidableEq, Repr

/-- How the scan names a fault. -/
def ScanFault.label : ScanFault → String
  | unfinished => "TokenError"
  | indentation => "IndentationError"

/-! ## Strings -/

/-- A string that goes on in the next line. -/
structure LongString where
  quote : Char
  triple : Bool

/-- The number of characters up to the end of a string in single quotes within a line that ends in them; `none` if
there is no end. The flag is set where a backslash at the end of the line continues the string. -/
def endOfSingle (quote : Char) (n : Nat) : List Char → Option (Nat × Bool)
  | [] => none
  | '\\' :: '\n' :: _ => some (n + 2, true)
  | '\\' :: '\r' :: '\n' :: _ => some (n + 3, true)
  | '\\' :: _ :: cs => endOfSingle quote (n + 2) cs
  | c :: cs => if c = '\n' ∨ c = '\\' then none else if c = quote then some (n + 1, false) else endOfSingle quote (n + 1) cs

/-- The number of characters up to the end of a string that was continued. -/
def endOfContinued (quote : Char) (n : Nat) : List Char → Option Nat
  | [] => none
  | '\\' :: cs =>
    match cs with
    | [] => none
    | c :: ds => if c = '\n' then none else endOfContinued quote (n + 2) ds
  | c :: cs => if c = quote then some (n + 1) else endOfContinued quote (n + 1) cs

/-- The number of characters up to the end of a string in three quotes, within one line. -/
def endOfTriple (quote : Char) (n seen : Nat) : List Char → Option Nat
  | [] => none
  | '\\' :: cs =>
    match cs with
    | [] => none
    | c :: ds => if c = '\n' then none else endOfTriple quote (n + 2) 0 ds
  | c :: cs =>
    if c = quote then if seen = 2 then some (n + 1) else endOfTriple quote (n + 1) (seen + 1) cs
    else endOfTriple quote (n + 1) 0 cs

/-- The number of characters up to the end of a long string. -/
def LongString.reach (s : LongString) (line : List Char) : Option Nat :=
  if s.triple then endOfTriple s.quote 0 0 line else endOfContinued s.quote 0 line

/-! ## Pieces of a line -/

/-- The letters that may stand in front of a string, in lower case. -/
def scanLetters : List String := ["", "b", "r", "u", "f", "br", "rb", "fr", "rf"]

/-- The letters in front of a string at the front of a line, and what follows them. -/
def stringStart (cs : List Char) : Option (Nat × Char × List Char) :=
  let letters := (cs.take 3).takeWhile (fun c => c ≠ '\'' && c ≠ '"')
  match cs.drop letters.length with
  | q :: rest =>
    if (q = '\'' || q = '"') && scanLetters.contains (String.ofList (letters.map Char.toLower)) then
      some (letters.length, q, rest)
    else none
  | [] => none

/-- A letter, a digit or an underscore. -/
def isScanWord (c : Char) : Bool := isAlphanumeric c || c == '_'

/-- The next piece of a line. -/
inductive Item where
  /-- So many characters of no interest. -/
  | skip (n : Nat)
  /-- A comment to the end of the line. -/
  | comment (n : Nat)
  /-- An opening or closing bracket. -/
  | bracket (change : Int)
  /-- A backslash at the end of the line. -/
  | continuation (n : Nat)
  /-- A string that goes on in the next line. -/
  | long (s : LongString)
  deriving Inhabited

/-- The piece at the front of a line that is not empty. -/
def nextItem (c : Char) (cs : List Char) : Item :=
  let line := c :: cs
  if c = '\\' then
    match cs with
    | '\n' :: _ => .continuation 2
    | '\r' :: '\n' :: _ => .continuation 3
    | _ => .skip 1
  else if c = '#' then .comment (line.takeWhile (fun d => d ≠ '\r' && d ≠ '\n')).length
  else if c = '(' || c = '[' || c = '\x7b' then .bracket 1
  else if c = ')' || c = ']' || c = '\x7d' then .bracket (-1)
  else
    match stringStart line with
    | some (n, q, rest) =>
      if [q, q].isPrefixOf rest then
        match endOfTriple q 0 0 (rest.drop 2) with
        | some m => .skip (n + 3 + m)
        | none => .long ⟨q, true⟩
      else
        match endOfSingle q 0 rest with
        | some (m, false) => .skip (n + 1 + m)
        | some (_, true) => .long ⟨q, false⟩
        | none => if isScanWord c then .skip (line.takeWhile isScanWord).length else .skip 1
    | none => if isScanWord c then .skip (line.takeWhile isScanWord).length else .skip 1

/-! ## The scan -/

/-- What the scan knows at the start of a line: the string that is open, whether it may only go on behind a
backslash, the open brackets, whether a statement is continued, and the depths of the lines around. -/
structure ScanState where
  open? : Option LongString
  needsBackslash : Bool
  brackets : Int
  continued : Bool
  depths : List Nat

/-- Scans the rest of a line, of which `column` characters are done. -/
def scanRest (row : Nat) : (steps column : Nat) → ScanState → List Comment → List Char →
    ScanState × List Comment
  | 0, _, s, found, _ => (s, found)
  | _, _, s, found, [] => (s, found)
  | steps + 1, column, s, found, c :: cs =>
    match nextItem c cs with
    | .skip n => scanRest row steps (column + n) s found ((c :: cs).drop n)
    | .comment n =>
      scanRest row steps (column + n) s (⟨row, column, (c :: cs).take n⟩ :: found) ((c :: cs).drop n)
    | .bracket change => scanRest row steps (column + 1) { s with brackets := s.brackets + change } found cs
    | .continuation n => scanRest row steps (column + n) { s with continued := true } found ((c :: cs).drop n)
    | .long l => ({ s with open? := some l, needsBackslash := s.needsBackslash || !l.triple }, found)

/-- The depth of a line, the number of its blanks, and what follows them. -/
def scanDepth (depth n : Nat) : List Char → Nat × Nat × List Char
  | ' ' :: cs => scanDepth (depth + 1) (n + 1) cs
  | '\t' :: cs => scanDepth ((depth / 8 + 1) * 8) (n + 1) cs
  | '\x0c' :: cs => scanDepth 0 (n + 1) cs
  | cs => (depth, n, cs)

/-- Whether a line ends in a backslash and a line end. -/
def endsInBackslash (line : List Char) : Bool :=
  "\\\n".toList.isSuffixOf line || "\\\r\n".toList.isSuffixOf line

/-- Compares the depth of a new statement with those around it. -/
def compareDepths (depth : Nat) (depths : List Nat) : Option (List Nat) :=
  match depths with
  | [] => some [depth]
  | d :: _ =>
    if depth > d then some (depth :: depths)
    else
      let kept := depths.dropWhile (depth < ·)
      if kept.head? = some depth then some kept else none

/-- The result of a scan: the comments, latest first, and the fault that ended it, if one did. -/
abbrev Scan := List Comment × Option ScanFault

/-- Scans the lines from index `row` on. -/
def scanLines (row : Nat) (s : ScanState) (found : List Comment) : List (List Char) → Scan
  | [] =>
    if s.open?.isNone && s.brackets = 0 && !s.continued then (found, none) else (found, some .unfinished)
  | line :: lines =>
    match s.open? with
    | some l =>
      match l.reach line with
      | some n =>
        let (s, found) :=
          scanRest row line.length n { s with open? := none, needsBackslash := false } found (line.drop n)
        scanLines (row + 1) s found lines
      | none =>
        if s.needsBackslash && !endsInBackslash line then scanLines (row + 1) { s with open? := none } found lines
        else scanLines (row + 1) s found lines
    | none =>
      if s.brackets = 0 && !s.continued then
        match scanDepth 0 0 line with
        | (_, _, []) => (found, none)
        | (depth, n, c :: cs) =>
          if c = '#' then
            let text := dropEndWhile (fun d => d == '\r' || d == '\n') (c :: cs)
            scanLines (row + 1) s (⟨row, n, text⟩ :: found) lines
          else if c = '\r' || c = '\n' then scanLines (row + 1) s found lines
          else
            match compareDepths depth s.depths with
            | none => (found, some .indentation)
            | some depths =>
              let (s, found) := scanRest row line.length n { s with depths } found (c :: cs)
              scanLines (row + 1) s found lines
      else
        let (s, found) := scanRest row line.length 0 { s with continued := false } found line
        scanLines (row + 1) s found lines

/-- One more character in front of lines that end in line feeds. -/
def consRow (c : Char) (rows : List (List Char)) : List (List Char) :=
  if c = '\n' then [c] :: rows else consFirst c rows

/-- The lines of a text for the scan, with their line feeds. -/
def scanRows (cs : List Char) : List (List Char) := cs.foldr consRow []

/-- The comments of a source in order, and the fault that ended the scan, if one did. -/
def scanComments (cs : List Char) : Scan :=
  let (found, fault) := scanLines 0 ⟨none, false, 0, false, [0]⟩ [] (scanRows cs)
  (found.reverse, fault)

/-! ## Comments that are prose -/

/-- What comments for tools start with, behind the number sign. -/
def pragmas : List String := ["noqa", "type:", "pragma", "pylint:", "fmt:", "isort:", "mypy:"]

/-- A character of the name of an encoding. -/
def isEncodingPart (c : Char) : Bool := c == '-' || c == '.' || isScanWord c

/-- Whether a text goes on with the name of an encoding: a colon or an equals sign, blanks, and the name. -/
def declaresEncoding (cs : List Char) : Bool :=
  match cs with
  | c :: rest =>
    (c = ':' || c = '=') && (rest.dropWhile (fun d => d = ' ' || d = '\t')).head?.any isEncodingPart
  | [] => false

/-- Whether a comment declares the encoding of its source. -/
def isEncodingComment : List Char → Bool
  | [] => false
  | c :: cs =>
    ("coding".toList.isPrefixOf (c :: cs) && declaresEncoding ((c :: cs).drop 6)) || isEncodingComment cs

/-- The prose of a comment: without number signs and blanks around; none if it is empty or meant for a tool. -/
def prose (c : Comment) : Option String :=
  if c.row < 2 && ("#!".toList.isPrefixOf c.text || isEncodingComment c.text) then none
  else
    let text := trim (c.text.dropWhile (· = '#'))
    let lowered := lowerChars text
    if text.isEmpty || pragmas.any (·.toList.isPrefixOf lowered) then none else some (String.ofList text)

/-- The node of a comment, if it is prose. Rows are taken for lines of the source. -/
def commentNode (lines : LineTable) (c : Comment) : Option Node :=
  (prose c).map fun text =>
    let start := lines.starts.getD c.row 0 + c.column
    ⟨⟨start, start + c.text.length⟩, .comment, some text, false⟩

end SpellLint.Source
