import SpellLint.Findings

/-! # Diagnostics

Findings as a reader sees them: where they are, what is wrong, and the line of the source.
-/

set_option autoImplicit false

namespace SpellLint

/-- A finding that can be printed or written out. -/
structure Diagnostic where
  span : Span
  location : String
  words : List String
  message : String
  sourceLine : Option String
  deriving DecidableEq, Repr

namespace Diagnostic

/-- What is said about a list of unknown words: they are put in ascending order, and none is dropped. -/
def messageOf (words : List String) : String :=
  let noun := if words.length = 1 then "word" else "words"
  "misspelled " ++ noun ++ ": " ++ ", ".intercalate (words.mergeSort (· ≤ ·))

/-- The diagnostic of a finding. -/
def ofFinding (location : Span → String) (firstLine : Span → Option String) (finding : Span × List String) :
    Diagnostic :=
  let words := finding.2.foldl (fun s w => s.insert w) (∅ : Std.TreeSet String)
  ⟨finding.1, location finding.1, words.toList, messageOf words.toList, firstLine finding.1⟩

/-- The diagnostics of findings, in their order. -/
def render (location : Span → String) (firstLine : Span → Option String)
    (findings : List (Span × List String)) : List Diagnostic :=
  findings.map (ofFinding location firstLine)

/-- Whether any of the diagnostics has a word. -/
def anyMistakes (diagnostics : List Diagnostic) : Bool :=
  diagnostics.any (!·.words.isEmpty)

end Diagnostic

end SpellLint
