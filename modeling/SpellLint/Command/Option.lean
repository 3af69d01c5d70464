import SpellLint.Value

/-! # The options of the command

The options of the command line with the names they go by and the help that is shown for them.
-/

set_option autoImplicit false

namespace SpellLint.Command

/-- What an option sets. -/
inductive Setting where
  | help
  | wordList
  | noDefault
  | defaultList
  | language
  | exportedOnly
  | comments
  | possessives
  | json
  | csv
  | filesCsv
  | logLevel
  deriving DecidableEq, Repr

/-- An option: its names, what stands for its value if it takes one, and its help. -/
structure CommandOption where
  setting : Setting
  names : List String
  value : Option String
  help : String

/-- The help of a value that has a default. -/
def withDefault (help : String) (dflt : Value) : String := help ++ " (default: " ++ dflt.shown ++ ")"

/-- The field of a record; `dflt` if it has none. -/
def fieldOr (v : Value) (name : String) (dflt : Value) : Value := if v.has name then v.get name else dflt

/-- The options, in the order of the help. Their defaults are the fields of a record. -/
def options (defaults : Value) : List CommandOption := [
  ⟨.help, ["-h", "--help"], none, "show this help message and exit"⟩,
  ⟨.wordList, ["-d", "--dict"], some "PATH",
    "Dictionary file (a list of words, one per line); may be repeated"⟩,
  ⟨.noDefault, ["-n", "--no-def-dict"], none, "Don't use the default dictionary"⟩,
  ⟨.defaultList, ["--default-dict"], some "SOURCE",
    withDefault "Default dictionary: 'builtin' or a word list such as /usr/share/dict/words"
      (fieldOr defaults "default_dictionary" (.text "builtin"))⟩,
  ⟨.language, ["--language"], some "LANGUAGE",
    withDefault "Language of the builtin dictionary" (fieldOr defaults "language_code" (.text "en"))⟩,
  ⟨.exportedOnly, ["--exported-only"], none, "Only check names visible outside their module"⟩,
  ⟨.comments, ["--comments"], none, "Also check '#' comments"⟩,
  ⟨.possessives, ["--possessives"], none,
    "Accept \"word's\" when \"word\" is known (keeps apostrophes inside words)"⟩,
  ⟨.json, ["--json"], some "PATH", "Write the full report as JSON"⟩,
  ⟨.csv, ["--csv"], some "PATH", "Write one CSV row per misspelled span"⟩,
  ⟨.filesCsv, ["--files-csv"], some "PATH", "Write one CSV row per file"⟩,
  ⟨.logLevel, ["--log-level"], some "LOG_LEVEL",
    withDefault "DEBUG, INFO, WARNING or ERROR" (fieldOr defaults "log_level" (.text "INFO"))⟩]

/-- Every name of an option, with its option, in order. -/
def optionNames (table : List CommandOption) : List (String × CommandOption) :=
  table.flatMap fun o => o.names.map (·, o)

end SpellLint.Command
