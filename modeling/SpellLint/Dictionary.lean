import Std.Data.TreeSet
import SpellLint.Text.Blank
import SpellLint.Text.Case

/-! # The set of known words

Words are trimmed and lower-cased when they enter and when they are looked up, so case never matters. A
dictionary does not change: accepting more words gives another dictionary.
-/

set_option autoImplicit false

namespace SpellLint

open SpellLint.Text

/-- The form under which a word is kept and looked up: trimmed, in lower case. -/
def normalForm (word : String) : String := lower (strip word)

/-- A set of known words in normal form, none of them empty. -/
structure Dictionary where
  known : Std.TreeSet String

namespace Dictionary

/-- Nothing is known. -/
def empty : Dictionary := ⟨∅⟩

/-- Also accepts `word`; a blank word adds nothing. -/
def learn (d : Dictionary) (word : String) : Dictionary :=
  let form := normalForm word
  if form = "" then d else ⟨d.known.insert form⟩

/-- Also accepts every word of a list. -/
def extended (d : Dictionary) (words : List String) : Dictionary :=
  words.foldl learn d

/-- The dictionary of a word list. -/
def ofWords (words : List String) : Dictionary := empty.extended words

/-- The union of word lists. -/
def ofSources (sources : List (List String)) : Dictionary := ofWords sources.flatten

/-- Whether a word is known, whatever its case. -/
def contains (d : Dictionary) (word : String) : Bool := d.known.contains (normalForm word)

/-- The known words in ascending order. -/
def words (d : Dictionary) : List String := d.known.toList

/-- The number of known words. -/
def size (d : Dictionary) : Nat := d.known.size

/-- How a dictionary introduces itself. -/
def describe (d : Dictionary) : String := s!"Dictionary({d.size} words)"

end Dictionary

end SpellLint
