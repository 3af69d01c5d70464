import SpellLint.Text.Blank
import SpellLint.Text.Case

/-! # Paths

Paths in their plain form: no empty parts and no points for the folder itself, but parts that lead upwards are
kept, because links may stand in front of them.
-/

set_option autoImplicit false

namespace SpellLint

open SpellLint.Text

/-- A path: the slashes that it starts with, none, one or two, and its parts. -/
structure Path where
  root : String
  parts : List String
  deriving DecidableEq, Repr, Inhabited

namespace Path

/-- The path that a text stands for. -/
def ofString (text : String) : Path :=
  let cs := text.toList
  let slashes := (cs.takeWhile (· = '/')).length
  let root := if slashes = 0 then "" else if slashes = 2 then "//" else "/"
  ⟨root, (splitAt '/' text).filter (fun part => part ≠ "" && part ≠ ".")⟩

/-- The text of a path; a path without parts is a point. -/
def toString (p : Path) : String :=
  let text := p.root ++ "/".intercalate p.parts
  if text = "" then "." else text

/-- Whether a path starts at the root. -/
def isAbsolute (p : Path) : Bool := p.root ≠ ""

/-- A path inside a folder; an absolute path is what it is. -/
def join (folder p : Path) : Path :=
  if p.isAbsolute then p else ⟨folder.root, folder.parts ++ p.parts⟩

/-- An entry of a folder. -/
def child (folder : Path) (name : String) : Path := ⟨folder.root, folder.parts ++ [name]⟩

/-- A list of names without those that lead upwards, and without the names that they undo. -/
def withoutUps (names : List String) : List String :=
  names.foldl (fun done name => if name = ".." then done.dropLast else done ++ [name]) []

/-- The absolute path that a path stands for in a folder, if there are no links. -/
def absolute (here p : Path) : Path :=
  let whole := here.join p
  ⟨whole.root, withoutUps whole.parts⟩

/-- The last part; the empty text if there is none. -/
def name (p : Path) : String := p.parts.getLast?.getD ""

/-- The path without its last part. -/
def parent (p : Path) : Path := ⟨p.root, p.parts.dropLast⟩

/-- A name cut at its last point; nothing is cut off at the first and at the last character. -/
def splitName (name : String) : String × String :=
  let cs := name.toList
  let ending := (cs.reverse.takeWhile (· ≠ '.')).reverse
  let n := cs.length - ending.length
  if n ≥ 2 && !ending.isEmpty then (String.ofList (cs.take (n - 1)), String.ofList ('.' :: ending))
  else (name, "")

/-- The name without its extension. -/
def stem (p : Path) : String := (splitName p.name).1

/-- The extension of the name with its point; the empty text if there is none. -/
def suffix (p : Path) : String := (splitName p.name).2

/-- The extension in lower case. -/
def extension (p : Path) : String := lower p.suffix

end Path

instance : ToString Path := ⟨Path.toString⟩

end SpellLint
