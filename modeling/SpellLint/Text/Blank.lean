import SpellLint.Text.CodePoints

/-! # Blanks and line boundaries

White space of every script, the trimming of texts, and the cutting of a text into lines and into pieces.
-/

set_option autoImplicit false

namespace SpellLint.Text

/-! ## White space -/

/-- The code points of white space. -/
def blanks : CodePoints := ⟨#[
  0x9, 0xE, 0x1C, 0x21, 0x85, 0x86, 0xA0, 0xA1, 0x1680, 0x1681, 0x2000, 0x200B, 0x2028, 0x202A, 0x202F,
  0x2030, 0x205F, 0x2060, 0x3000, 0x3001]⟩

/-- White space: separators, tabs, line ends and the information separators. -/
def isBlank (c : Char) : Bool := blanks.mem c.toNat

/-- Drops the characters of a class from the end. -/
def dropEndWhile (p : Char → Bool) (cs : List Char) : List Char :=
  (cs.reverse.dropWhile p).reverse

/-- Drops the characters of a class from both ends. -/
def dropAround (p : Char → Bool) (cs : List Char) : List Char :=
  dropEndWhile p (cs.dropWhile p)

/-- Without leading and trailing white space. -/
def trim (cs : List Char) : List Char :=
  dropAround isBlank cs

/-- Without leading and trailing white space. -/
def strip (s : String) : String :=
  String.ofList (trim s.toList)

/-! ## Pieces -/

/-- Puts a character in front of the first piece. -/
def consFirst (c : Char) : List (List Char) → List (List Char)
  | piece :: pieces => (c :: piece) :: pieces
  | [] => [[c]]

/-- The pieces between the characters of a class, empty ones included; at least one. -/
def splitBy (p : Char → Bool) (cs : List Char) : List (List Char) :=
  cs.foldr (fun c pieces => if p c then [] :: pieces else consFirst c pieces) [[]]

/-- The non-empty stretches between characters of a class. -/
def fieldsBy (p : Char → Bool) (cs : List Char) : List (List Char) :=
  (splitBy p cs).filter (· ≠ [])

/-- The words of a text that white space separates. -/
def fields (s : String) : List String :=
  (fieldsBy isBlank s.toList).map String.ofList

/-- The pieces between occurrences of one character, empty ones included. -/
def splitAt (sep : Char) (s : String) : List String :=
  (splitBy (· == sep) s.toList).map String.ofList

/-- The pieces between occurrences of `sep` that are not blank, each trimmed. -/
def listed (sep : Char) (s : String) : List String :=
  ((splitAt sep s).map strip).filter (· ≠ "")

/-! ## Lines -/

/-- The characters that end a line of text, whatever their script. -/
def isLineBoundary (c : Char) : Bool :=
  c == '\n' || c == '\r' || c == '\x0b' || c == '\x0c' || c == '\x1c' || c == '\x1d' || c == '\x1e' ||
    c == '\u0085' || c == '\u2028' || c == '\u2029'

/-- One more character in front of a text whose first character and pieces between line ends are known. A
carriage return in front of a line feed adds nothing: together they are one line end. -/
def consLine (c : Char) (rest : Option Char × List (List Char)) : Option Char × List (List Char) :=
  (some c,
    if c = '\r' ∧ rest.1 = some '\n' then rest.2
    else if isLineBoundary c then [] :: rest.2
    else consFirst c rest.2)

/-- The lines of a text without their ends; nothing follows the last line end. -/
def lines (cs : List Char) : List (List Char) :=
  let pieces := (cs.foldr consLine (none, [[]])).2
  if pieces.getLast? = some [] then pieces.dropLast else pieces

/-- The lines of a text, without their ends. -/
def splitLines (s : String) : List String :=
  (lines s.toList).map String.ofList

end SpellLint.Text
