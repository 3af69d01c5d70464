import SpellLint.Text.Numeral

/-! # Number literals

How far a number literal reaches. Digits may be grouped by single underscores. Letters may follow a number
directly only if they are a keyword that can stand there.
-/

set_option autoImplicit false

namespace SpellLint.Source

open SpellLint.Text

/-- A number of characters and what follows them. -/
abbrev Reach := Nat × List Char

/-- May continue a word; every character beyond ASCII counts until the whole word is checked. -/
def isWordPart (c : Char) : Bool := c.isAlphanum || c == '_' || c.toNat ≥ 128

/-- May start a word; every character beyond ASCII counts until the whole word is checked. -/
def isWordStart (c : Char) : Bool := c.isAlpha || c == '_' || c.toNat ≥ 128

/-- A binary digit. -/
def isBinaryDigit (c : Char) : Bool := c == '0' || c == '1'

/-- Whether a text starts with a word that nothing continues. -/
def startsWithWord (word : String) (cs : List Char) : Bool :=
  word.toList.isPrefixOf cs && !((cs.drop word.toList.length).head?.any isWordPart)

/-- Whether a number may end in front of a text. -/
def mayEndNumber : List Char → Bool
  | [] => true
  | c :: cs =>
    ["and", "else", "for", "or", "not"].any (startsWithWord · (c :: cs)) ||
      (c == 'i' && cs.head?.any (fun d => d == 'f' || d == 'n' || d == 's')) || !isWordPart c

/-- Only a number that may end here. -/
def endNumber (r : Reach) : Option Reach :=
  if mayEndNumber r.2 then some r else none

/-- The digits of a class behind `n` characters, with single underscores between or before them; `started` tells
whether one was seen. -/
def digitsOf (p : Char → Bool) (n : Nat) (started : Bool) : List Char → Option Reach
  | [] => if started then some (n, []) else none
  | '_' :: cs =>
    match cs with
    | [] => none
    | d :: ds => if p d then digitsOf p (n + 2) true ds else none
  | c :: cs => if p c then digitsOf p (n + 1) true cs else if started then some (n, c :: cs) else none

/-- An imaginary mark, if there is one, and the end of the number. -/
def imaginaryEnd : Reach → Option Reach
  | (n, 'j' :: cs) => endNumber (n + 1, cs)
  | (n, 'J' :: cs) => endNumber (n + 1, cs)
  | r => endNumber r

/-- The digits of an exponent. A mark that no digit follows is no exponent, but may start a keyword. -/
def exponentEnd (n : Nat) (mark : Char) : List Char → Option Reach
  | c :: cs =>
    if c == '+' || c == '-' then
      if cs.head?.any Char.isDigit then (digitsOf Char.isDigit (n + 2) false cs).bind imaginaryEnd else none
    else if c.isDigit then (digitsOf Char.isDigit (n + 1) false (c :: cs)).bind imaginaryEnd
    else endNumber (n, mark :: c :: cs)
  | [] => endNumber (n, [mark])

/-- An exponent, if there is one, and the end of the number. -/
def afterFraction : Reach → Option Reach
  | (n, 'e' :: cs) => exponentEnd n 'e' cs
  | (n, 'E' :: cs) => exponentEnd n 'E' cs
  | r => imaginaryEnd r

/-- What follows the point of a number. -/
def afterPoint : Reach → Option Reach
  | (n, c :: cs) =>
    if c.isDigit then (digitsOf Char.isDigit n false (c :: cs)).bind afterFraction else afterFraction (n, c :: cs)
  | (n, []) => afterFraction (n, [])

/-- What follows the whole part of a decimal number. -/
def afterWhole : Reach → Option Reach
  | (n, '.' :: cs) => afterPoint (n + 1, cs)
  | r => afterFraction r

/-- The zeros in front of a decimal number. -/
def leadingZeros (n : Nat) : List Char → Option Reach
  | '0' :: cs => leadingZeros (n + 1) cs
  | '_' :: '0' :: cs => leadingZeros (n + 2) cs
  | '_' :: c :: cs => if c.isDigit then some (n + 1, c :: cs) else none
  | ['_'] => none
  | cs => some (n, cs)

/-- A number that starts with a zero and is no hexadecimal, octal or binary one. Only fractions and imaginary
numbers may have other digits behind leading zeros. -/
def afterZeros (r : Reach) : Option Reach :=
  if r.2.head?.any Char.isDigit then
    (digitsOf Char.isDigit r.1 false r.2).bind fun s =>
      if s.2.head?.any (fun c => c == '.' || c == 'e' || c == 'E' || c == 'j' || c == 'J') then afterWhole s
      else none
  else afterWhole r

/-- How far the number reaches that starts with a digit at the front of a text; `none` if it is malformed. -/
def numberReach : List Char → Option Reach
  | '0' :: c :: cs =>
    if c == 'x' || c == 'X' then (digitsOf isHexDigit 2 false cs).bind endNumber
    else if c == 'o' || c == 'O' then (digitsOf isOctalDigit 2 false cs).bind endNumber
    else if c == 'b' || c == 'B' then (digitsOf isBinaryDigit 2 false cs).bind endNumber
    else (leadingZeros 1 (c :: cs)).bind afterZeros
  | cs => (digitsOf Char.isDigit 0 false cs).bind afterWhole

/-- The longest decimal whole number that is read. -/
def maxDecimalDigits : Nat := 4300

/-- Whether a whole number in decimal notation is too long to be read. -/
def isTooLong (text : String) : Bool :=
  let digits := text.toList.filter (· ≠ '_')
  digits.all Char.isDigit && digits.head? != some '0' && digits.length > maxDecimalDigits

/-- Whether a number literal is imaginary. -/
def isImaginary (text : String) : Bool :=
  match text.toList.getLast? with
  | some c => c == 'j' || c == 'J'
  | none => false

end SpellLint.Source
