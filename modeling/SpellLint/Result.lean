import SpellLint.Files.Path
import SpellLint.Span
import SpellLint.Value

/-! # Results of checks -/

set_option autoImplicit false

namespace SpellLint

/-- How serious a result is: misspellings are warnings, errors are kept for what broke down. -/
inductive Severity where
  | info
  | warning
  | error
  deriving DecidableEq, Repr

namespace Severity

/-- The word for a severity. -/
def label : Severity → String
  | info => "INFO"
  | warning => "WARNING"
  | error => "ERROR"

/-- All severities. -/
def all : List Severity := [info, warning, error]

/-- The severity of a word. -/
def ofLabel? (word : String) : Option Severity := all.find? (·.label == word)

end Severity

/-- What a check says about a file, or about a span of it. `details` is a record. -/
structure Result where
  file : Path
  check : String
  severity : Severity
  passed : Bool
  message : String
  details : Value
  span : Option Span

namespace Result

/-- A misspelling is a failure at a span. -/
def isMisspelling (r : Result) : Bool := r.span.isSome && !r.passed

end Result

/-- Why a part of a run broke down: the class of the failure and its text. -/
structure Failure where
  kind : String
  message : String
  deriving DecidableEq, Repr

end SpellLint
