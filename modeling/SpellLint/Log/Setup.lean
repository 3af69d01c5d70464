import SpellLint.Files.Path
import SpellLint.Log
import SpellLint.Text.Case
import SpellLint.Text.Quoted

/-! # Setting up the log

Records go to the console and, if a folder is given, to files in it that take turns. The first set-up decides where
records go; later ones only change the threshold, of the log and of everything it goes to.
-/

set_option autoImplicit false

namespace SpellLint.Log

open SpellLint.Text

/-! ## Levels by name -/

/-- Why a threshold is refused: its name is taken by something else. -/
inductive LevelError where
  /-- The name stands for a text. -/
  | text (value : String)
  /-- The name stands for a table; how the table is shown. -/
  | table (shown : String)
  deriving DecidableEq, Repr

namespace LevelError

/-- The class of the error. -/
def kind : LevelError → String
  | text _ => "ValueError"
  | table _ => "TypeError"

/-- What is said about a name that is taken. -/
def message : LevelError → String
  | text value => "Unknown level: " ++ quoted value
  | table shown => "Level not an integer or a valid string: " ++ shown

end LevelError

/-- The numbers of the named levels. -/
def levelNumbers : List (String × Nat) :=
  [("CRITICAL", 50), ("FATAL", 50), ("ERROR", 40), ("WARNING", 30), ("WARN", 30), ("INFO", 20), ("DEBUG", 10),
    ("NOTSET", 0)]

/-- The plain form of records. -/
def basicForm : String := "%(levelname)s:%(name)s:%(message)s"

/-- The table of the ways to write forms, as it is shown. -/
def stylesShown : String :=
  "\x7b'%': (<class 'logging.PercentStyle'>, '%(levelname)s:%(name)s:%(message)s'), " ++
    "'\x7b': (<class 'logging.StrFormatStyle'>, '\x7blevelname\x7d:\x7bname\x7d:\x7bmessage\x7d'), " ++
    "'$': (<class 'logging.StringTemplateStyle'>, '$\x7blevelname\x7d:$\x7bname\x7d:$\x7bmessage\x7d')\x7d"

/-- The threshold with a name, in any case. A name that means nothing means informations; two names are taken. -/
def threshold (name : String) : Except LevelError Nat :=
  let word := upper name
  match levelNumbers.lookup word with
  | some n => .ok n
  | none =>
    if word = "BASIC_FORMAT" then .error (.text basicForm)
    else if word = "_STYLES" then .error (.table stylesShown)
    else .ok Level.info.number

/-! ## Handlers -/

/-- Where records go. -/
inductive Target where
  | console
  /-- A file that is put aside when it is full, and how many such files are kept. -/
  | file (path : Path) (limit kept : Nat)
  deriving DecidableEq, Repr

/-- The form of records, with the time. -/
def recordForm : String := "%(asctime)s %(levelname)s %(name)s: %(message)s"

/-- Where the records of a set-up go: always to the console. `here` is the working folder. -/
def targets (here : Path) (folder : Option Path) : List Target :=
  .console :: (folder.map fun p => Target.file (here.absolute (p.child "lexicheck.log")) 5000000 3).toList

/-- The state of the log: its threshold, and the targets with theirs. -/
structure State where
  level : Nat
  handlers : List (Target × Nat)
  deriving DecidableEq, Repr

namespace State

/-- Before anything has been set up. -/
def initial : State := ⟨Level.info.number, []⟩

/-- Sets up the log. -/
def configure (s : State) (here : Path) (levelName : String) (folder : Option Path) : Except LevelError State := do
  let level ← threshold levelName
  let handlers := if s.handlers.isEmpty then targets here folder else s.handlers.map (·.1)
  return ⟨level, handlers.map (·, level)⟩

end State

end SpellLint.Log
