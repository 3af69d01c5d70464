import Std.Data.TreeSet
import SpellLint.Files.FileSystem
import SpellLint.Text.Blank
import SpellLint.Text.Case

/-! # Discovery of files

Which files a run looks at. Files that are named are taken whatever their extension; folders are searched for
files with the extensions that are wanted, links to folders and ignored folders left out. The files of a folder
come before those of the folders in it, each in ascending order of their names.
-/

set_option autoImplicit false

namespace SpellLint

open SpellLint.Text

/-! ## What is wanted -/

/-- The extensions that are looked for unless others are given. -/
def standardExtensions : List String := [".py", ".pyi"]

/-- The folders that are left out unless others are given. -/
def standardIgnored : List String := [".git", "__pycache__", "venv", ".venv", ".tox"]

/-- An extension in lower case with a point in front; none for a blank. -/
def normalExtension (extension : String) : Option String :=
  let s := lower (strip extension)
  if s = "" then none else some (if s.toList.head? = some '.' then s else "." ++ s)

/-- The extensions of a list in ascending order. -/
def normalExtensions (extensions : List String) : List String :=
  ((extensions.filterMap normalExtension).foldl (·.insert ·) (∅ : Std.TreeSet String)).toList

/-- The names of a list in lower case and ascending order; blank names are dropped. -/
def normalNames (names : List String) : List String :=
  (((names.filter (strip · ≠ "")).map lower).foldl (·.insert ·) (∅ : Std.TreeSet String)).toList

/-- A name from its last point on, in lower case; the empty text if there is no point. -/
def ending (name : String) : String :=
  let cs := name.toList
  let tail := (cs.reverse.takeWhile (· ≠ '.')).reverse
  if tail.length = cs.length then "" else lower (String.ofList ('.' :: tail))

/-- What a search takes and what it leaves out. -/
structure Selection where
  extensions : List String
  ignored : List String

namespace Selection

/-- A list that replaces the standard one unless it is empty. -/
def orStandard (standard : List String) : List String → List String
  | [] => standard
  | given => given

/-- The selection of extensions and of folders that are ignored. -/
def of (extensions ignored : List String) : Selection :=
  ⟨normalExtensions (orStandard standardExtensions extensions), normalNames (orStandard standardIgnored ignored)⟩

/-- Whether a file with a name is taken. -/
def takes (s : Selection) (name : String) : Bool := s.extensions.contains (ending name)

/-- Whether a folder with a name is left out. -/
def leavesOut (s : Selection) (name : String) : Bool := s.ignored.contains (lower name)

end Selection

/-! ## Searching folders -/

namespace FileSystem

/-- Whether an entry of a folder counts as a file: it is one, or a link that does not lead to a folder. -/
def countsAsFile (fs : FileSystem) (folder : Path) (entry : String × Entry) : Bool :=
  match entry.2 with
  | .file _ => true
  | .folder _ => false
  | .link _ => !fs.isFolder (folder.child entry.1)

/-- The wanted files among the entries of a folder. -/
def filesIn (fs : FileSystem) (s : Selection) (folder : Path) (entries : List (String × Entry)) : List Path :=
  let names := ((entries.filter (fs.countsAsFile folder)).map (·.1)).filter s.takes
  (names.mergeSort (· ≤ ·)).map folder.child

mutual

/-- The wanted files of a folder and of the folders in it. -/
def filesUnder (fs : FileSystem) (s : Selection) (folder : Path) : Entry → List Path
  | .folder entries =>
    fs.filesIn s folder entries ++
      ((foldersUnder fs s folder entries).mergeSort (fun a b => a.1 ≤ b.1)).flatMap (·.2)
  | .file _ => []
  | .link _ => []

/-- The folders in a folder, each with its wanted files. -/
def foldersUnder (fs : FileSystem) (s : Selection) (folder : Path) :
    List (String × Entry) → List (String × List Path)
  | [] => []
  | (name, .folder inner) :: entries =>
    if s.leavesOut name then foldersUnder fs s folder entries
    else (name, filesUnder fs s (folder.child name) (.folder inner)) :: foldersUnder fs s folder entries
  | _ :: entries => foldersUnder fs s folder entries

end

/-- Why a path cannot be resolved: a link on it leads to itself. -/
structure LinkLoop where
  path : Path
  deriving DecidableEq, Repr

/-- What is said about a link that leads to itself. -/
def LinkLoop.message (e : LinkLoop) : String := "Symlink loop from " ++ quoted e.path.toString

/-- The path without links that a path stands for. -/
def resolved (fs : FileSystem) (p : Path) : Except LinkLoop Path := (fs.resolve p).mapError LinkLoop.mk

/-- The wanted files under a path; none if it is no folder. -/
def search (fs : FileSystem) (s : Selection) (root : Path) : Except LinkLoop (List Path) := do
  let folder ← fs.resolved root
  match fs.entry folder with
  | .ok e => return fs.filesUnder s folder e
  | .error _ => return []

/-- The files that an input stands for: those of a folder, or the path itself, which need not exist. -/
def filesOf (fs : FileSystem) (s : Selection) (input : Path) : Except LinkLoop (List Path) := do
  if fs.isFolder input then fs.search s input else return [← fs.resolved input]

/-- The members of a list at their first places. -/
def distinct (paths : List Path) : List Path :=
  paths.foldl (fun seen p => if seen.contains p then seen else seen ++ [p]) []

/-- The files that inputs stand for, in their order and without repetition. -/
def expand (fs : FileSystem) (s : Selection) (inputs : List Path) : Except LinkLoop (List Path) := do
  return distinct (← inputs.mapM (fs.filesOf s)).flatten

end FileSystem

end SpellLint
