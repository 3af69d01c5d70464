import SpellLint.Policy
import SpellLint.Text.Blank
import SpellLint.Text.Case
import SpellLint.Value

/-! # Configurations

What a run does unless it is told otherwise, and the variables of the environment that change it. As a value, a
configuration is a record; a record that lacks fields means the standard ones.
-/

set_option autoImplicit false

namespace SpellLint

open SpellLint.Text

/-- The configuration of a run. -/
structure Config where
  extensions : List String
  ignored : List String
  logLevel : String
  /-- The folder of the log file; none if it is empty. -/
  logFolder : String
  /-- The standard word list: the built-in one by its name, or a file. -/
  defaultList : String
  useDefault : Bool
  language : String
  wordLists : List String
  policy : Policy
  deriving DecidableEq, Repr

/-- The variables of an environment. -/
abbrev Environment := List (String × String)

namespace Config

/-- The name of the built-in word list. -/
def builtin : String := "builtin"

/-- The configuration of an empty environment. -/
def standard : Config where
  extensions := [".py", ".pyi"]
  ignored := [".git", "__pycache__", "venv", ".venv", ".tox", "build", "dist"]
  logLevel := "INFO"
  logFolder := ""
  defaultList := builtin
  useDefault := true
  language := "en"
  wordLists := []
  policy := .standard

/-! ## Reading variables -/

/-- The paths of a list that colons separate. -/
def splitPaths (value : String) : List String := listed ':' value

/-- Whether a variable is switched on. -/
def isOn (value : String) : Bool := ["1", "true", "yes", "on"].contains (lower (strip value))

/-- An extension in lower case with a point in front. -/
def pointed (extension : String) : String :=
  let s := lower extension
  if s.toList.head? = some '.' then s else "." ++ s

/-- The value of a variable that is set and not empty. -/
def given (env : Environment) (name : String) : Option String := (env.lookup name).filter (· ≠ "")

/-- The variables that a configuration depends on. -/
def variableNames : List String :=
  ["LEXICHECK_TARGET_EXTS", "LEXICHECK_IGNORE_DIRS", "LEXICHECK_LOG_LEVEL", "LEXICHECK_LOG_DIR",
    "LEXICHECK_DEFAULT_DICT", "LEXICHECK_USE_DEFAULT_DICT", "LEXICHECK_LANGUAGE_CODE", "LEXICHECK_DICT",
    "LEXICHECK_EXPORTED_ONLY", "LEXICHECK_STRIP_POSSESSIVES", "LEXICHECK_CHECK_COMMENTS"]

/-- The configuration of an environment. -/
def load (env : Environment) : Config :=
  let flag (name : String) (dflt : Bool) : Bool := ((env.lookup name).map isOn).getD dflt
  let word (name dflt : String) : String := ((env.lookup name).map strip).getD dflt
  { extensions := ((given env "LEXICHECK_TARGET_EXTS").map fun v => (listed ',' v).map pointed).getD standard.extensions
    ignored := ((given env "LEXICHECK_IGNORE_DIRS").map (listed ',')).getD standard.ignored
    logLevel := upper (word "LEXICHECK_LOG_LEVEL" standard.logLevel)
    logFolder := word "LEXICHECK_LOG_DIR" standard.logFolder
    defaultList := word "LEXICHECK_DEFAULT_DICT" standard.defaultList
    useDefault := flag "LEXICHECK_USE_DEFAULT_DICT" standard.useDefault
    language := word "LEXICHECK_LANGUAGE_CODE" standard.language
    wordLists := ((given env "LEXICHECK_DICT").map splitPaths).getD standard.wordLists
    policy :=
      { exportedOnly := flag "LEXICHECK_EXPORTED_ONLY" standard.policy.exportedOnly
        possessives := flag "LEXICHECK_STRIP_POSSESSIVES" standard.policy.possessives
        comments := flag "LEXICHECK_CHECK_COMMENTS" standard.policy.comments } }

/-! ## Configurations as records -/

/-- A configuration as a record. -/
def toValue (c : Config) : Value :=
  .record
    [("target_extensions", .texts c.extensions), ("ignore_dirs", .texts c.ignored), ("log_level", .text c.logLevel),
      ("log_dir", .text c.logFolder), ("default_dictionary", .text c.defaultList),
      ("use_default_dictionary", .bool c.useDefault), ("language_code", .text c.language),
      ("dictionaries", .texts c.wordLists), ("exported_only", .bool c.policy.exportedOnly),
      ("check_comments", .bool c.policy.comments), ("strip_possessives", .bool c.policy.possessives)]

/-- The text of a field; `dflt` if there is none or it is empty. -/
def textField (v : Value) (name dflt : String) : String :=
  let field := v.get name
  if field.holds then field.shown else dflt

/-- The texts of a field; none if there are none. -/
def textsField (v : Value) (name : String) : List String :=
  match v.get name with
  | .list items => items.map Value.shown
  | _ => []

/-- The configuration of a record. -/
def ofValue (v : Value) : Config where
  extensions := textsField v "target_extensions"
  ignored := textsField v "ignore_dirs"
  logLevel := textField v "log_level" standard.logLevel
  logFolder := textField v "log_dir" ""
  defaultList := textField v "default_dictionary" builtin
  useDefault := if v.has "use_default_dictionary" then (v.get "use_default_dictionary").holds else true
  language := textField v "language_code" standard.language
  wordLists := textsField v "dictionaries"
  policy :=
    ⟨(v.get "exported_only").holds, (v.get "strip_possessives").holds, (v.get "check_comments").holds⟩

end Config

end SpellLint
