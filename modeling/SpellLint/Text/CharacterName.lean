import SpellLint.Text.Blank
import SpellLint.Text.CharacterNames.Ancient
import SpellLint.Text.CharacterNames.Eastern
import SpellLint.Text.CharacterNames.Further
import SpellLint.Text.CharacterNames.Letters
import SpellLint.Text.CharacterNames.Pictures
import SpellLint.Text.CharacterNames.Scripts
import SpellLint.Text.CharacterNames.Symbols
import SpellLint.Text.Numeral

/-! # Character names

The character with a name. Names are words in capital letters; of Hangul syllables and ideographs they follow from
the code point, and all others are in tables. A line of a table starts with a code point, or goes on behind the line
before it, and names consecutive characters. Every entry starts with a mark that says how it follows from the entry
before it:

* a small letter, `a` for none, `b` for one and so on, keeps so many words and adds those behind the mark;
* a plus raises the number at the end by one;
* a tilde turns a capital letter into a small one.
-/

set_option autoImplicit false

namespace SpellLint.Text

/-! ## Reading the tables -/

/-- A name, word by word. -/
abbrev NameWords := List (List Char)

/-- Whether a character is the mark of an entry. -/
def isMark (c : Char) : Bool := ('a' ≤ c && c ≤ 'z') || c = '+' || c = '~'

/-- The entries of a line with their marks, and the text in front of the first. -/
def entriesOf : List Char → List (Char × List Char) × List Char
  | [] => ([], [])
  | c :: cs =>
    let (entries, text) := entriesOf cs
    if isMark c then ((c, text) :: entries, []) else (entries, c :: text)

/-- A word whose number at the end is one higher. -/
def countedUp (word : List Char) : List Char :=
  let digits := (word.reverse.takeWhile Char.isDigit).reverse
  let next := (toString (numberOf 10 digits + 1)).toList
  word.take (word.length - digits.length) ++ List.replicate (digits.length - next.length) '0' ++ next

/-- A name with a word replaced by another at its first place. -/
def replaceFirst (word other : List Char) : NameWords → NameWords
  | [] => []
  | w :: ws => if w = word then other :: ws else w :: replaceFirst word other ws

/-- The name of an entry behind another name. -/
def nextName (previous : NameWords) (mark : Char) (text : List Char) : NameWords :=
  if mark = '+' then previous.dropLast ++ [countedUp (previous.getLast?.getD [])]
  else if mark = '~' then replaceFirst "CAPITAL".toList "SMALL".toList previous
  else previous.take (mark.toNat - 'a'.toNat) ++ splitBy (· = ' ') text

/-- The names of entries behind another name. -/
def namesFrom (previous : NameWords) : List (Char × List Char) → List NameWords
  | [] => []
  | (mark, text) :: entries =>
    let name := nextName previous mark text
    name :: namesFrom name entries

/-- The code point with a name in the lines of a table; `code` and `previous` belong to the end of the line before. -/
def findName (name : NameWords) : (code : Nat) → (previous : NameWords) → List String → Option Nat
  | _, _, [] => none
  | code, previous, line :: lines =>
    let (entries, head) := entriesOf line.toList
    let start := if head.isEmpty then code else numberOf 16 (head.takeWhile (· ≠ ' '))
    let names := namesFrom previous entries
    match names.findIdx? (· = name) with
    | some i => some (start + i)
    | none => findName name (start + entries.length) (names.getLast?.getD previous) lines

/-- The code point with a further name in a line. -/
def findFurther (name line : List Char) : Option Nat :=
  (splitBy (· = ';') line).findSome? fun entry =>
    if (entry.dropWhile (· ≠ ' ')).drop 1 = name then some (numberOf 16 (entry.takeWhile (· ≠ ' '))) else none

/-! ## Names that follow from the code point -/

/-- Characters whose names end in their code points. -/
def codedNames : List (String × List (Nat × Nat)) :=
  [("CJK COMPATIBILITY IDEOGRAPH-", [(0xF900, 0xFA6D), (0xFA70, 0xFAD9), (0x2F800, 0x2FA1D)]),
    ("KHITAN SMALL SCRIPT CHARACTER-", [(0x18B00, 0x18CD5)]), ("NUSHU CHARACTER-", [(0x1B170, 0x1B2FB)])]

/-- The unified ideographs. -/
def unifiedIdeographs : List (Nat × Nat) :=
  [(0x3400, 0x4DBF), (0x4E00, 0x9FFF), (0x20000, 0x2A6DF), (0x2A700, 0x2B738), (0x2B740, 0x2B81D),
    (0x2B820, 0x2CEA1), (0x2CEB0, 0x2EBE0), (0x30000, 0x3134A)]

/-- Whether a number is in one of several ranges. -/
def inRanges (n : Nat) (ranges : List (Nat × Nat)) : Bool := ranges.any fun (lo, hi) => lo ≤ n && n ≤ hi

/-- What follows the start of a name. -/
def after? (start : String) (name : List Char) : Option (List Char) :=
  if start.toList.isPrefixOf name then some (name.drop start.length) else none

/-- Whether a character is a hexadecimal digit in capital letters. -/
def isCapitalHexDigit (c : Char) : Bool := c.isDigit || ('A' ≤ c && c ≤ 'F')

/-- The code point of a name that ends in it. -/
def findCoded (name : List Char) : Option Nat :=
  codedNames.findSome? fun (start, ranges) => do
    let digits ← after? start name
    let n := numberOf 16 digits
    if digits.all isCapitalHexDigit && (digits.length = 4 || digits.length = 5 && digits.head? ≠ some '0') &&
      inRanges n ranges then some n else none

/-- The unified ideograph with a code point in four or five digits. -/
def findIdeograph (digits : List Char) : Option Nat :=
  let n := numberOf 16 digits
  if (digits.length = 4 || digits.length = 5) && digits.all isCapitalHexDigit && inRanges n unifiedIdeographs then some n
  else none

/-- The consonants at the start of a syllable. -/
def leadingSounds : List String :=
  ["G", "GG", "N", "D", "DD", "R", "M", "B", "BB", "S", "SS", "", "J", "JJ", "C", "K", "T", "P", "H"]

/-- The vowels of a syllable. -/
def vowelSounds : List String :=
  ["A", "AE", "YA", "YAE", "EO", "E", "YEO", "YE", "O", "WA", "WAE", "OE", "YO", "U", "WEO", "WE", "WI", "YU", "EU",
    "YI", "I"]

/-- The consonants at the end of a syllable. -/
def trailingSounds : List String :=
  ["", "G", "GG", "GS", "N", "NJ", "NH", "D", "L", "LG", "LM", "LB", "LS", "LT", "LP", "LH", "M", "B", "BS", "S", "SS",
    "NG", "J", "C", "K", "T", "P", "H"]

/-- The longest sound that a text starts with, by its number, and the text behind it. -/
def takeSound (sounds : List String) (cs : List Char) : Option (Nat × List Char) :=
  let fitting := sounds.zipIdx.filter fun (sound, _) => sound.toList.isPrefixOf cs
  fitting.foldl (fun best (sound, i) =>
    let rest := cs.drop sound.length
    match best with
    | some (j, shortest) => if rest.length < shortest.length then some (i, rest) else some (j, shortest)
    | none => some (i, rest)) none

/-- The code point of a syllable. -/
def findSyllable (cs : List Char) : Option Nat := do
  let (l, cs) ← takeSound leadingSounds cs
  let (v, cs) ← takeSound vowelSounds cs
  let (t, cs) ← takeSound trailingSounds cs
  if cs.isEmpty then some (0xAC00 + (l * 21 + v) * 28 + t) else none

/-! ## Characters by name -/

/-- The code point of a name in the tables. -/
def findInTables (name : List Char) : Option Nat :=
  let words := splitBy (· = ' ') name
  (findCoded name).orElse fun _ =>
    ([lettersNames, scriptsNames, symbolsNames, easternNames, ancientNames, picturesNames].findSome?
      (findName words 0 [])).orElse fun _ => furtherNames.findSome? fun line => findFurther name line.toList

/-- The code point of a name; only the names of syllables and unified ideographs have to be in capital letters. -/
def codeNamed (name : List Char) : Option Nat :=
  match after? "HANGUL SYLLABLE " name, after? "CJK UNIFIED IDEOGRAPH-" name with
  | some sounds, _ => findSyllable sounds
  | none, some digits => findIdeograph digits
  | none, none => findInTables (name.map Char.toUpper)

/-- The character with a name. -/
def characterNamed (name : String) : Option Char := (codeNamed name.toList).map Char.ofNat

end SpellLint.Text
