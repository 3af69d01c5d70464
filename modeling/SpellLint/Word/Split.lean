import SpellLint.Text.Alphanumeric
import SpellLint.Text.Blank
import SpellLint.Text.Digit
import SpellLint.Text.Letter

/-! # Words of a name or a text

A word is a stretch of letters and digits. Everything else separates words, except that an apostrophe between
two letters or digits may be kept inside. Inside a stretch a new word starts

* where a lower case letter meets an upper case one: `fooBar` is `foo`, `Bar`;
* at the last letter of an upper case run that a lower case letter follows: `HTTPServer` is `HTTP`, `Server`;
* where digits start or end: `v2Beta` is `v`, `2`, `Beta`.

The splitting is total and keeps the case of every letter.
-/

set_option autoImplicit false

namespace SpellLint.Word

open SpellLint.Text

/-! ## Stretches of word characters -/

/-- The typewriter apostrophe and the right single quotation mark. -/
def isApostrophe (c : Char) : Bool := c == '\'' || c == '’'

/-- Whether a text starts with a letter or a digit. -/
def startsWord : List Char → Bool
  | c :: _ => isAlphanumeric c
  | [] => false

/-- Whether `c` belongs to a word, given whether a letter or digit stands in front and what follows. -/
def isKept (keepApostrophes afterWord : Bool) (c : Char) (rest : List Char) : Bool :=
  isAlphanumeric c || (keepApostrophes && isApostrophe c && afterWord && startsWord rest)

/-- The stretches of word characters, empty ones between neighbouring separators included. -/
def stretchesAfter (keepApostrophes afterWord : Bool) : List Char → List (List Char)
  | [] => [[]]
  | c :: cs =>
    if isKept keepApostrophes afterWord c cs then
      consFirst c (stretchesAfter keepApostrophes (isAlphanumeric c) cs)
    else [] :: stretchesAfter keepApostrophes false cs

/-- The non-empty stretches of word characters of a text, in order. -/
def stretches (keepApostrophes : Bool) (cs : List Char) : List (List Char) :=
  (stretchesAfter keepApostrophes false cs).filter (· ≠ [])

/-! ## Words of a stretch -/

/-- Whether a new word starts at `c`, which stands between `before` and `after` in one stretch. -/
def startsNew (before c : Char) (after : Option Char) : Bool :=
  if isApostrophe before || isApostrophe c then false
  else if isDigit before != isDigit c then true
  else if isLower before && isUpper c then true
  else isUpper before && isUpper c && after.any isLower

/-- Cuts a stretch where new words start. -/
def cutStretch : List Char → List (List Char)
  | [] => []
  | [c] => [[c]]
  | c :: d :: rest =>
    if startsNew c d rest.head? then [c] :: cutStretch (d :: rest) else consFirst c (cutStretch (d :: rest))

/-- The words of a text, numbers included. -/
def splitChars (keepApostrophes : Bool) (cs : List Char) : List (List Char) :=
  (stretches keepApostrophes cs).flatMap cutStretch

/-- A word of one digit, which nobody spells. -/
def isLoneDigit : List Char → Bool
  | [c] => isDigit c
  | _ => false

/-- The words of a text that are looked up in a dictionary: all but lone digits. -/
def segmentChars (keepApostrophes : Bool) (cs : List Char) : List (List Char) :=
  (splitChars keepApostrophes cs).filter (!isLoneDigit ·)

/-- The words of a text, numbers included. -/
def split (text : String) (keepApostrophes : Bool) : List String :=
  (splitChars keepApostrophes text.toList).map String.ofList

/-- The words of a text that are looked up in a dictionary: all but lone digits. -/
def segment (text : String) (keepApostrophes : Bool) : List String :=
  (segmentChars keepApostrophes text.toList).map String.ofList

end SpellLint.Word
