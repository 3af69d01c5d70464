import SpellLint.Dictionary
import SpellLint.Word.Split

/-! # Unknown words

Which words of a name or a text a dictionary does not know. A look-up ignores case and does nothing more, unless
possessives are accepted: then apostrophes stay inside words, and `word's` is known when `word` is.
-/

set_option autoImplicit false

namespace SpellLint

open SpellLint.Text SpellLint.Word

/-- The two forms of the possessive ending. -/
def possessiveEndings : List String := ["'s", "’s"]

/-- The word without its possessive ending; the word itself if it has none. -/
def possessiveStem (word : String) : String :=
  if possessiveEndings.any (fun ending => ending.toList.isSuffixOf (lower word).toList) then
    String.ofList (word.toList.take (word.toList.length - 2))
  else word

/-- Whether a word is accepted; with `possessives`, also for its stem. -/
def isKnown (d : Dictionary) (possessives : Bool) (word : String) : Bool :=
  d.contains word ||
    (possessives && possessiveStem word != "" && possessiveStem word != word && d.contains (possessiveStem word))

/-- The words of a text that are not accepted, in their own case, in ascending order. -/
def unknownWords (text : String) (d : Dictionary) (possessives : Bool) : Std.TreeSet String :=
  ((segment text possessives).filter (!isKnown d possessives ·)).foldl (·.insert ·) ∅

end SpellLint
