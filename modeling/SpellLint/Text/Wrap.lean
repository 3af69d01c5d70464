import SpellLint.Text.Alphanumeric
import SpellLint.Text.Blank
import SpellLint.Text.Digit

/-! # Wrapping

Breaking a text into lines of a limited width. Lines break at blanks, behind hyphens inside words, and around
dashes between words; a piece that is longer than a line is broken anywhere, if possible behind a hyphen.
-/

set_option autoImplicit false

namespace SpellLint.Text

/-! ## Pieces -/

/-- Letters, digits and underscores. -/
def isWordPart (c : Char) : Bool := isAlphanumeric c || c = '_'

/-- What may stand in front of a dash between words. -/
def isBeforeDash (c : Char) : Bool := isWordPart c || "!\"'&.,?".toList.contains c

/-- Letters and underscores. -/
def isWordLetter (c : Char) : Bool := isWordPart c && !isDigit c

/-- Whether a text starts with a letter. -/
def startsWithLetter : List Char → Bool
  | c :: _ => isWordLetter c
  | [] => false

/-- Whether the text behind a hyphen goes on as a word that is divided there: with two letters, or with a letter,
a hyphen and a letter. -/
def goesOnDivided : List Char → Bool
  | c :: '-' :: rest => isWordLetter c && startsWithLetter rest
  | c :: rest => isWordLetter c && startsWithLetter rest
  | [] => false

/-- Whether a word may be divided behind a hyphen, by what stands in front of it, the nearest character first:
two letters, or the last character of a part of a word that one letter and a hyphen precede. -/
def maybeDivided : List Char → Bool
  | a :: b :: more =>
    (isWordLetter a && isWordLetter b) || (isBeforeDash a && b = '-' && startsWithLetter more)
  | _ => false

/-- Whether a dash between words starts a text: two hyphens or more, and a word behind them. -/
def startsDash (cs : List Char) : Bool :=
  let behind := cs.dropWhile (· = '-')
  2 ≤ cs.length - behind.length && (match behind with | c :: _ => isWordPart c | [] => false)

/-- The piece that starts with characters that are not blank. `before` are the characters in front of the rest, the
nearest first; at least one of them belongs to the piece. -/
def wordPiece (before : List Char) : List Char → List Char
  | [] => []
  | c :: rest =>
    if c = ' ' then []
    else if c = '-' ∧ maybeDivided before ∧ goesOnDivided rest then [c]
    else if startsDash (c :: rest) ∧ (before.head?.map isBeforeDash).getD false then []
    else c :: wordPiece (c :: before) rest

/-- The piece that starts a text. -/
def firstPiece (before : List Char) : List Char → List Char
  | [] => []
  | c :: rest =>
    if c = ' ' then c :: rest.takeWhile (· = ' ')
    else if startsDash (c :: rest) ∧ (before.head?.map isBeforeDash).getD false then
      c :: rest.takeWhile (· = '-')
    else c :: wordPiece (c :: before) rest

/-- The pieces of a text between which lines may break; `fuel` bounds their number. -/
def piecesFrom : (fuel : Nat) → (before cs : List Char) → List (List Char)
  | _, _, [] => []
  | 0, _, cs => [cs]
  | fuel + 1, before, cs =>
    let piece := firstPiece before cs
    piece :: piecesFrom fuel (piece.reverse ++ before) (cs.drop piece.length)

/-- The pieces of a text between which lines may break. -/
def pieces (cs : List Char) : List (List Char) := piecesFrom cs.length [] cs

/-! ## Lines -/

/-- The pieces that fit into a width, and the rest. -/
def fitting : (width : Nat) → List (List Char) → List (List Char) × List (List Char)
  | _, [] => ([], [])
  | width, piece :: rest =>
    if piece.length ≤ width then
      let (taken, left) := fitting (width - piece.length) rest
      (piece :: taken, left)
    else ([], piece :: rest)

/-- Where a piece that is too long is broken, if so many characters of it fit: behind the last hyphen, unless
there are only hyphens in front of it. -/
def breakPoint (room : Nat) (piece : List Char) : Nat :=
  let start := piece.take room
  let behind := start.reverse.takeWhile (· ≠ '-')
  let front := start.take (start.length - behind.length - 1)
  if behind.length < start.length ∧ front.any (· ≠ '-') then start.length - behind.length else room

/-- Without a blank piece at the end. -/
def withoutBlankEnd (line : List (List Char)) : List (List Char) :=
  match line.getLast? with
  | some piece => if trim piece = [] then line.dropLast else line
  | none => line

/-- Puts pieces into lines; a blank piece starts no line but the first. `fuel` bounds the number of lines. -/
def fillLines (width : Nat) : (fuel : Nat) → (isFirst : Bool) → List (List Char) → List String
  | 0, _, _ => []
  | _, _, [] => []
  | fuel + 1, isFirst, piece :: rest =>
    let todo := if trim piece = [] ∧ !isFirst then rest else piece :: rest
    let (taken, left) := fitting width todo
    let used := taken.flatten.length
    let (line, left) :=
      match left with
      | long :: more =>
        if width < long.length then
          let n := breakPoint (width - used) long
          (taken ++ [long.take n], long.drop n :: more)
        else (taken, left)
      | [] => (taken, left)
    let line := withoutBlankEnd line
    let more := fillLines width fuel (isFirst && line.isEmpty) left
    if line.isEmpty then more else String.ofList line.flatten :: more

/-- The lines of a text, broken so that they fit into a width above zero. -/
def wrap (width : Nat) (s : String) : List String :=
  let text := " ".intercalate (fields s)
  fillLines width (2 * text.length + 2) true (pieces text.toList)

end SpellLint.Text
