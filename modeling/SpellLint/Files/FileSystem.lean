import SpellLint.Files.Path
import SpellLint.Text.Quoted

/-! # File systems

Folders, files and links as a value. A path is followed from the working folder through links, at most forty of
them; it can also be resolved into a path without links, and then it need not exist.
-/

set_option autoImplicit false

namespace SpellLint

open SpellLint.Text

/-! ## Errors -/

/-- Why a path cannot be used. -/
inductive FileError where
  | missing
  | notFolder
  | isFolder
  | linkLoop
  deriving DecidableEq, Repr

namespace FileError

/-- The number of an error. -/
def number : FileError → Nat
  | missing => 2
  | notFolder => 20
  | isFolder => 21
  | linkLoop => 40

/-- The text of an error. -/
def text : FileError → String
  | missing => "No such file or directory"
  | notFolder => "Not a directory"
  | isFolder => "Is a directory"
  | linkLoop => "Too many levels of symbolic links"

/-- The class of an error. -/
def kind : FileError → String
  | missing => "FileNotFoundError"
  | notFolder => "NotADirectoryError"
  | isFolder => "IsADirectoryError"
  | linkLoop => "OSError"

/-- What is said about an error at a path. -/
def message (e : FileError) (p : Path) : String :=
  s!"[Errno {e.number}] {e.text}: " ++ quoted p.toString

end FileError

/-! ## Entries -/

/-- An entry of a folder. -/
inductive Entry where
  | file (content : List UInt8)
  | link (target : Path)
  | folder (entries : List (String × Entry))
  deriving Inhabited

namespace Entry

/-- The entry of a folder with a name. -/
def child? (e : Entry) (name : String) : Option Entry :=
  match e with
  | folder entries => (entries.find? (·.1 == name)).map (·.2)
  | _ => none

/-- The entry under a list of names; links are not followed. -/
def under? : List String → Entry → Option Entry
  | [], e => some e
  | name :: names, e => (e.child? name).bind (under? names)

/-- A folder's entries with one of them replaced or added. -/
def putIn (name : String) (e : Entry) : List (String × Entry) → List (String × Entry)
  | [] => [(name, e)]
  | entry :: entries => if entry.1 = name then (name, e) :: entries else entry :: putIn name e entries

/-- Puts an entry under a list of names; folders that are missing on the way are made. -/
def put : (top : Entry) → (names : List String) → (e : Entry) → Entry
  | _, [], e => e
  | folder entries, name :: names, e =>
    folder (putIn name (put (((folder entries).child? name).getD (folder [])) names e) entries)
  | top, _ :: _, _ => top

end Entry

/-- A tree of folders from the root, and the working folder. -/
structure FileSystem where
  top : Entry
  here : List String

namespace FileSystem

/-! ## Following a path -/

/-- Where following a path may end: only at what exists, or also at a new name in a folder. -/
inductive Goal where
  | existing
  | place
  deriving DecidableEq

/-- Follows `todo` from the folder `done`, through at most `links` links. -/
def follow (fs : FileSystem) (goal : Goal) :
    (links : Nat) → (done todo : List String) → Except FileError (List String)
  | _, done, [] => .ok done
  | links, done, name :: rest =>
    if name = ".." then follow fs goal links done.dropLast rest
    else
      match fs.top.under? (done ++ [name]) with
      | none => if goal = .place ∧ rest = [] then .ok (done ++ [name]) else .error .missing
      | some (.folder _) => follow fs goal links (done ++ [name]) rest
      | some (.file _) => if rest = [] then .ok (done ++ [name]) else .error .notFolder
      | some (.link target) =>
        match links with
        | 0 => .error .linkLoop
        | links + 1 => follow fs goal links (if target.isAbsolute then [] else done) (target.parts ++ rest)
  termination_by links _ todo => (links, todo.length)

/-- How many links a path may go through. -/
def linkLimit : Nat := 40

/-- The names from the root that a path starts at. -/
def start (fs : FileSystem) (p : Path) : List String := if p.isAbsolute then [] else fs.here

/-- Where a path leads, as names from the root. -/
def locate (fs : FileSystem) (goal : Goal) (p : Path) : Except FileError (List String) :=
  fs.follow goal linkLimit (fs.start p) p.parts

/-- The file or folder that a path leads to. -/
def entry (fs : FileSystem) (p : Path) : Except FileError Entry := do
  match fs.top.under? (← fs.locate .existing p) with
  | some e => .ok e
  | none => .error .missing

/-- Whether a path leads to anything. -/
def holds (fs : FileSystem) (p : Path) : Bool :=
  match fs.entry p with
  | .ok _ => true
  | .error _ => false

/-- Whether a path leads to a folder. -/
def isFolder (fs : FileSystem) (p : Path) : Bool :=
  match fs.entry p with
  | .ok (.folder _) => true
  | _ => false

/-- The content of the file that a path leads to. -/
def read (fs : FileSystem) (p : Path) : Except FileError (List UInt8) := do
  match ← fs.entry p with
  | .file content => .ok content
  | _ => .error .isFolder

/-- The number of bytes of the file that a path leads to; folders count as none. -/
def size (fs : FileSystem) (p : Path) : Except FileError Nat := do
  match ← fs.entry p with
  | .file content => .ok content.length
  | _ => .ok 0

/-! ## Changing files -/

/-- Writes a file, through links; its folder has to exist. -/
def write (fs : FileSystem) (p : Path) (content : List UInt8) : Except FileError FileSystem := do
  let names ← fs.locate .place p
  match fs.top.under? names with
  | some (.folder _) => .error .isFolder
  | _ => .ok { fs with top := fs.top.put names (.file content) }

/-- Makes a folder and the folders around it, unless they exist. -/
def makeFolder (fs : FileSystem) (p : Path) : FileSystem :=
  ((List.range p.parts.length).map fun n => Path.mk p.root (p.parts.take (n + 1))).foldl
    (fun fs q =>
      match fs.locate .place q with
      | .ok names => if (fs.top.under? names).isSome then fs else { fs with top := fs.top.put names (.folder []) }
      | .error _ => fs)
    fs

/-- Adds an entry in a folder, which is made if it is missing. -/
def add (fs : FileSystem) (p : Path) (e : Entry) : FileSystem :=
  let made := fs.makeFolder p.parent
  match made.locate .existing p.parent with
  | .ok names => { made with top := made.top.put (names ++ [p.name]) e }
  | .error _ => made

/-- The file system that holds an empty working folder. -/
def empty (here : Path) : FileSystem :=
  ⟨(Entry.folder []).put here.parts (.folder []), here.parts⟩

/-! ## Resolving a path -/

/-- Resolves `todo` from the folder `done`: links are replaced by what they lead to, and names that do not exist
stay. `active` are the links that are being resolved; meeting one of them again leaves the path as it is. -/
def resolveNames (fs : FileSystem) :
    (depth : Nat) → (active : List (List String)) → (done todo : List String) → Except (List String) (List String)
  | _, _, done, [] => .ok done
  | depth, active, done, name :: rest =>
    if name = ".." then resolveNames fs depth active done.dropLast rest
    else
      match fs.top.under? (done ++ [name]) with
      | some (.link target) =>
        match depth with
        | 0 => .error (done ++ name :: rest)
        | depth + 1 =>
          if (done ++ [name]) ∈ active then .error (done ++ name :: rest)
          else
            match resolveNames fs depth ((done ++ [name]) :: active)
                (if target.isAbsolute then [] else done) target.parts with
            | .ok reached => resolveNames fs (depth + 1) active reached rest
            | .error stuck => .error (stuck ++ rest)
      | _ => resolveNames fs depth active (done ++ [name]) rest
  termination_by depth _ _ todo => (depth, todo.length)

/-- How deeply links may stand inside what other links lead to. -/
def nestingLimit : Nat := 1000

/-- The path without links that a path stands for, and whether it was stopped by a link that leads to itself. -/
def resolve (fs : FileSystem) (p : Path) : Except Path Path :=
  match fs.resolveNames nestingLimit [] (fs.start p) p.parts with
  | .ok names => .ok ⟨"/", names⟩
  | .error stuck =>
    let q : Path := ⟨"/", Path.withoutUps stuck⟩
    match fs.entry q with
    | .error .linkLoop => .error q
    | _ => .ok q

end FileSystem

end SpellLint
