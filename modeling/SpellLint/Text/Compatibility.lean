import Std.Data.HashMap
import SpellLint.Text.Blank
import SpellLint.Text.CompatibilityTable
import SpellLint.Text.Numeral

/-! # The compatibility normal form

Two identifiers are the same name if their compatibility forms agree: every character is replaced by what it
stands for, marks are put in the order of their classes, and letters are joined with their marks again.
-/

set_option autoImplicit false

namespace SpellLint.Text

/-! ## Reading the tables -/

/-- The hexadecimal numbers in an entry of a table. -/
def entryNumbers (entry : List Char) : List Nat :=
  (splitBy (fun c => c == '-' || c == ':' || c == '.') entry).map (numberOf 16)

/-- The entries of a table as lists of numbers. -/
def tableEntries (table : List String) : List (List Nat) :=
  table.flatMap fun line => (splitBy (· == ' ') line.toList).map entryNumbers

/-- A table of runs, keyed by their first code point. -/
def readRuns (table : List String) : Array (Nat × Nat × Nat) :=
  ((tableEntries table).filterMap fun
    | [first, last, value] => some (first, last, value)
    | _ => none).toArray

/-- The run that holds a code point. -/
def findRun (runs : Array (Nat × Nat × Nat)) (n : Nat) : Option (Nat × Nat × Nat) :=
  match runs[countAtMost (fun i => (runs[i]?.map (·.1)).getD 0) runs.size n - 1]? with
  | some (first, last, value) => if first ≤ n ∧ n ≤ last then some (first, last, value) else none
  | none => none

/-- `standInRuns` as an array. -/
def standInRunTable : Array (Nat × Nat × Nat) := readRuns standInRuns

/-- `markClasses` as an array. -/
def markClassTable : Array (Nat × Nat × Nat) := readRuns markClasses

/-- `standIns` as an array. -/
def standInTable : Array (Nat × List Nat) :=
  ((tableEntries standIns).filterMap fun
    | code :: parts => some (code, parts)
    | [] => none).toArray

/-- `composites` as a map. -/
def compositeTable : Std.HashMap (Nat × Nat) Nat :=
  (tableEntries composites).foldl (fun m e =>
    match e with
    | [letter, sign, code] => m.insert (letter, sign) code
    | _ => m) ∅

/-! ## The form -/

/-- The first Korean syllable; syllables are numbered by their two or three letters. -/
def firstSyllable : Nat := 0xAC00

/-- The letters of a Korean syllable. -/
def syllableLetters (n : Nat) : List Nat :=
  let s := n - firstSyllable
  [0x1100 + s / 588, 0x1161 + s % 588 / 28] ++ (if s % 28 = 0 then [] else [0x11A7 + s % 28])

/-- What a character stands for. -/
def standsFor (n : Nat) : List Nat :=
  if firstSyllable ≤ n ∧ n < firstSyllable + 11172 then syllableLetters n
  else
    match findRun standInRunTable n with
    | some (first, _, target) => [target + (n - first)]
    | none => (lookupSorted standInTable n).getD [n]

/-- The class of a mark; zero for other characters. -/
def markClass (n : Nat) : Nat :=
  ((findRun markClassTable n).map (·.2.2)).getD 0

/-- Puts a mark in front of the marks of a higher class that end a text; the text is in reverse. -/
def insertMark (n : Nat) : List Nat → List Nat
  | [] => [n]
  | m :: before => if markClass n < markClass m then m :: insertMark n before else n :: m :: before

/-- The characters with the marks behind each letter in the order of their classes. -/
def orderMarks (ns : List Nat) : List Nat :=
  (ns.foldl (fun before n => if markClass n = 0 then n :: before else insertMark n before) []).reverse

/-- The common character of two characters, if there is one. -/
def composite (a b : Nat) : Option Nat :=
  if 0x1100 ≤ a ∧ a < 0x1113 ∧ 0x1161 ≤ b ∧ b < 0x1176 then
    some (firstSyllable + ((a - 0x1100) * 21 + (b - 0x1161)) * 28)
  else if firstSyllable ≤ a ∧ a < firstSyllable + 11172 ∧ (a - firstSyllable) % 28 = 0 ∧ 0x11A7 < b ∧ b < 0x11C3 then
    some (a + (b - 0x11A7))
  else compositeTable[(a, b)]?

/-- Joins a letter, behind which the marks of `marks` stand in reverse, with the characters that follow. A mark
is joined unless another mark of the same or a higher class stands between. -/
def join (letter : Nat) (marks : List Nat) : List Nat → List Nat
  | [] => letter :: marks.reverse
  | n :: ns =>
    let free : Bool := match marks with
      | m :: _ => markClass m < markClass n
      | [] => true
    match if free then composite letter n else none with
    | some joined => join joined marks ns
    | none => if markClass n = 0 then letter :: marks.reverse ++ join n [] ns else join letter (n :: marks) ns

/-- The compatibility form of a text. -/
def compatibilityForm (cs : List Char) : List Char :=
  match orderMarks (cs.flatMap (standsFor ·.toNat)) with
  | [] => []
  | n :: ns => (join n [] ns).map Char.ofNat

end SpellLint.Text
