import SpellLint.Text.Quoted

/-! # Faults in patterns

What can be wrong with the text of a pattern, and where.
-/

set_option autoImplicit false

namespace SpellLint

/-- What is wrong with a pattern. -/
inductive PatternFault where
  /-- The pattern ends in a backslash. -/
  | loneBackslash
  | badEscape (text : String)
  | incompleteEscape (text : String)
  | octalTooLarge (text : String)
  /-- A group is asked for again before it is closed. -/
  | openGroup
  | groupInSameLookBehind
  | noSuchGroup (number : Nat)
  | noGroupNumber
  | noSuchName (name : String)
  | badName (name : String)
  | missingName
  | unterminatedName
  | manyBranches
  | unterminatedSet
  | badRange (first last : String)
  | nothingToRepeat
  | multipleRepeat
  | leastAboveMost
  | countTooLarge
  | unexpectedEnd
  | unknownExtension (text : String)
  | unterminatedGroup
  | unterminatedComment
  | unbalanced
  | lateFlags
  | unknownFlag
  | missingFlag
  | missingFlagEnd
  | missingColon
  | incompatibleFlags
  | unremovableFlags
  | contradictoryFlags
  | asciiAndUnicode
  /-- What is looked for behind a place has no fixed width. -/
  | looseLookBehind
  deriving DecidableEq, Repr

namespace PatternFault

open SpellLint.Text

/-- The class of a fault. -/
def kind : PatternFault → String
  | countTooLarge => "OverflowError"
  | asciiAndUnicode => "ValueError"
  | _ => "error"

/-- What is said about a fault. -/
def text : PatternFault → String
  | loneBackslash => "bad escape (end of pattern)"
  | badEscape t => "bad escape " ++ t
  | incompleteEscape t => "incomplete escape " ++ t
  | octalTooLarge t => "octal escape value " ++ t ++ " outside of range 0-0o377"
  | openGroup => "cannot refer to an open group"
  | groupInSameLookBehind => "cannot refer to group defined in the same lookbehind subpattern"
  | noSuchGroup n => "invalid group reference " ++ toString n
  | noGroupNumber => "bad group number"
  | noSuchName name => "unknown group name " ++ quoted name
  | badName name => "bad character in group name " ++ quoted name
  | missingName => "missing group name"
  | unterminatedName => "missing ), unterminated name"
  | manyBranches => "conditional backref with more than two branches"
  | unterminatedSet => "unterminated character set"
  | badRange first last => "bad character range " ++ first ++ "-" ++ last
  | nothingToRepeat => "nothing to repeat"
  | multipleRepeat => "multiple repeat"
  | leastAboveMost => "min repeat greater than max repeat"
  | countTooLarge => "the repetition number is too large"
  | unexpectedEnd => "unexpected end of pattern"
  | unknownExtension t => "unknown extension ?" ++ t
  | unterminatedGroup => "missing ), unterminated subpattern"
  | unterminatedComment => "missing ), unterminated comment"
  | unbalanced => "unbalanced parenthesis"
  | lateFlags => "global flags not at the start of the expression"
  | unknownFlag => "unknown flag"
  | missingFlag => "missing flag"
  | missingFlagEnd => "missing -, : or )"
  | missingColon => "missing :"
  | incompatibleFlags => "bad inline flags: flags 'a', 'u' and 'L' are incompatible"
  | unremovableFlags => "bad inline flags: cannot turn off flags 'a', 'u' and 'L'"
  | contradictoryFlags => "bad inline flags: flag turned on and off"
  | asciiAndUnicode => "ASCII and UNICODE flags are incompatible"
  | looseLookBehind => "look-behind requires fixed-width pattern"

end PatternFault

/-- A fault in a pattern, and the number of characters before it unless the pattern as a whole is at fault. -/
structure PatternError where
  fault : PatternFault
  place : Option Nat
  deriving DecidableEq, Repr

/-- What is said about an error in a pattern; of a pattern with several lines, the line and the column too. -/
def PatternError.message (e : PatternError) (pattern : String) : String :=
  match e.place with
  | none => e.fault.text
  | some n =>
    let cs := pattern.toList
    let before := (cs.take n).reverse
    let line := before.count '\n' + 1
    let column := (before.takeWhile (· ≠ '\n')).length + 1
    e.fault.text ++ s!" at position {n}" ++ (if cs.contains '\n' then s!" (line {line}, column {column})" else "")

end SpellLint
