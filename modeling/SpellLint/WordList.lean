import SpellLint.Config
import SpellLint.Dictionary
import SpellLint.Files.FileSystem
import SpellLint.Log
import SpellLint.Text.Utf8

/-! # Word lists

A word list is a file with a word on every line; blank lines and comments are skipped. The dictionary of a run is
the union of its word lists: it is complete, or it is not loaded at all.
-/

set_option autoImplicit false

namespace SpellLint

open SpellLint.Text

/-! ## Errors -/

/-- Why a word list cannot be read. -/
inductive LoadCause where
  | file (e : FileError) (path : Path)
  | bytes (e : DecodeError)
  /-- There is no built-in word list for a language. -/
  | language (code : String)
  deriving DecidableEq, Repr

namespace LoadCause

/-- The class of a cause. -/
def kind : LoadCause → String
  | file e _ => e.kind
  | bytes _ => "UnicodeDecodeError"
  | language _ => "ValueError"

/-- What is said about a cause. -/
def message : LoadCause → String
  | file e p => e.message p
  | bytes e => e.message
  | language code => "The provided dictionary language (" ++ lower code ++ ") does not exist!"

end LoadCause

/-- A word list that cannot be read, and why. -/
structure LoadError where
  source : String
  cause : LoadCause
  deriving DecidableEq, Repr

/-- What is said about a word list that cannot be read. -/
def LoadError.message (e : LoadError) : String :=
  String.ofList ("error loading ".toList ++ Char.ofNat 96 :: e.source.toList ++ Char.ofNat 96 :: ": ".toList) ++
    e.cause.message

/-! ## Reading a word list -/

namespace WordList

/-- The part of the program that logs. -/
def logger : String := "infra.dictionary_loader"

/-- Whether a trimmed line holds a word. -/
def isWord (line : String) : Bool := line ≠ "" && line.toList.head? ≠ some '#'

/-- The words of a text. -/
def wordsOf (text : List Char) : List String :=
  ((lines text).map fun line => String.ofList (trim line)).filter isWord

/-- The words of a file. -/
def read (fs : FileSystem) (path : Path) : Logged (Except LoadError (List String)) :=
  match fs.read path with
  | .error e => return .error ⟨path.toString, .file e path⟩
  | .ok bytes =>
    match decodeUtf8 bytes with
    | .error e => return .error ⟨path.toString, .bytes e⟩
    | .ok text => do
      let words := wordsOf (unifyLineEnds text)
      Logged.tell .debug logger s!"Read {words.length} words from {path}"
      return .ok words

/-! ## Loading a dictionary -/

/-- A source of words. -/
inductive Source where
  | builtin (language : String)
  | file (path : Path)
  deriving DecidableEq, Repr

/-- The built-in word lists by language; they are kept apart from the program. -/
abbrev Builtins := String → Option (List String)

/-- No language has a built-in word list, and no language means no words. -/
def noBuiltins : Builtins := fun language => if language = "" then some [] else none

/-- The words of a source. -/
def readSource (fs : FileSystem) (builtins : Builtins) : Source → Logged (Except LoadError (List String))
  | .builtin language =>
    match builtins language with
    | some words => return .ok words
    | none => return .error ⟨Config.builtin ++ ":" ++ language, .language language⟩
  | .file path => read fs path

/-- The words of sources, up to the first that cannot be read. -/
def readSources (fs : FileSystem) (builtins : Builtins) : List Source → Logged (Except LoadError (List (List String)))
  | [] => return .ok []
  | s :: rest => do
    match ← readSource fs builtins s with
    | .error e => return .error e
    | .ok words => return (← readSources fs builtins rest).map (words :: ·)

/-- The dictionary of sources. -/
def load (fs : FileSystem) (builtins : Builtins) (sources : List Source) : Logged (Except LoadError Dictionary) := do
  match ← readSources fs builtins sources with
  | .error e => return .error e
  | .ok lists =>
    let d := Dictionary.ofSources lists
    Logged.tell .info logger s!"Loaded dictionary: {d.size} words from {lists.length} source(s)"
    return .ok d

/-- The source with a name. -/
def sourceNamed (name language : String) : Source :=
  if name = Config.builtin then .builtin language else .file (.ofString name)

/-- The standard source, unless it is switched off or has no name, and then files. -/
def sources (useDefault : Bool) (default language : String) (files : List Path) : List Source :=
  (if useDefault && default ≠ "" then [sourceNamed default language] else []) ++ files.map .file

/-- The language of a code; English if it is blank. -/
def languageOf (code : String) : String := if strip code = "" then "en" else strip code

/-- The sources of a configuration and of more files; a standard source without a name is the built-in one. -/
def sourcesOf (c : Config) (files : List Path) : List Source :=
  sources c.useDefault (if c.defaultList = "" then Config.builtin else c.defaultList) (languageOf c.language)
    (c.wordLists.map .ofString ++ files)

end WordList

end SpellLint
