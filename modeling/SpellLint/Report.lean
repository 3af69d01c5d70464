import SpellLint.Result

/-! # Reports

What a run found, file by file, with counts and a verdict for each file and the sums for all of them.
-/

set_option autoImplicit false

namespace SpellLint

/-- What a file comes to. -/
inductive Verdict where
  | pass
  | warn
  | fail
  deriving DecidableEq, Repr

namespace Verdict

/-- The word for a verdict. -/
def label : Verdict → String
  | pass => "PASS"
  | warn => "WARN"
  | fail => "FAIL"

/-- All verdicts. -/
def all : List Verdict := [pass, warn, fail]

/-- The verdict of a word. -/
def ofLabel? (word : String) : Option Verdict := all.find? (·.label == word)

end Verdict

/-- The results for a file, and how many of them are failed errors, failed warnings, informations and
misspellings. -/
structure FileReport where
  file : Path
  extension : String
  size : Nat
  verdict : Verdict
  errors : Nat
  warnings : Nat
  infos : Nat
  misspellings : Nat
  results : List Result

namespace FileReport

/-- The verdict of counts: errors fail a file, warnings alone only warn. -/
def verdictOf (errors warnings : Nat) : Verdict :=
  if 0 < errors then .fail else if 0 < warnings then .warn else .pass

/-- The report of a file with results. -/
def ofResults (file : Path) (extension : String) (size : Nat) (results : List Result) : FileReport :=
  let errors := results.countP fun r => r.severity = .error && !r.passed
  let warnings := results.countP fun r => r.severity = .warning && !r.passed
  { file, extension, size, verdict := verdictOf errors warnings, errors, warnings,
    infos := results.countP fun r => r.severity = .info,
    misspellings := results.countP Result.isMisspelling,
    results }

end FileReport

/-- The sum of counts over files. -/
def sumOver (count : FileReport → Nat) : List FileReport → Nat
  | [] => 0
  | f :: files => count f + sumOver count files

/-- The sums over all files. -/
structure Totals where
  files : Nat
  checks : Nat
  errors : Nat
  warnings : Nat
  infos : Nat
  misspellings : Nat
  deriving DecidableEq, Repr

/-- The sums over files. -/
def Totals.ofFiles (files : List FileReport) : Totals where
  files := files.length
  checks := sumOver (·.results.length) files
  errors := sumOver (·.errors) files
  warnings := sumOver (·.warnings) files
  infos := sumOver (·.infos) files
  misspellings := sumOver (·.misspellings) files

/-- What tells a run from others: its identifier, its start and its end. -/
structure Stamp where
  id : String
  started : String
  finished : String

/-- What a run found; `config` is a record of what it was asked for. -/
structure Report where
  inputs : List Path
  config : Value
  totals : Totals
  hadMistakes : Bool
  files : List FileReport

namespace Report

/-- The form in which reports are written out. -/
def schema : String := "1.0-spelling"

/-- The report of files. -/
def ofFiles (inputs : List Path) (config : Value) (files : List FileReport) : Report where
  inputs := inputs
  config := config
  totals := .ofFiles files
  hadMistakes := files.any (0 < ·.misspellings)
  files := files

/-- The results of all files. -/
def results (r : Report) : List Result := r.files.flatMap (·.results)

/-- The misspellings of all files. -/
def misspelled (r : Report) : List Result := r.results.filter Result.isMisspelling

end Report

end SpellLint
