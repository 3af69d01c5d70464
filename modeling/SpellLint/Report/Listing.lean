import SpellLint.Log
import SpellLint.Report.Table

/-! # Reports as listings

Two lines for every misspelling: where it is and what is wrong, then where it is and the line of the source.
Whatever else went wrong is logged.
-/

set_option autoImplicit false

namespace SpellLint

/-- The lines of a misspelling. -/
def Result.lines (r : Result) : List String :=
  let location := (r.location r.file.toString).shown
  let line := r.sourceLine.shown
  (location ++ ": " ++ r.message) :: if line = "" then [] else [location ++ ": " ++ line]

/-- The lines of a result, and the record of one that failed without being a misspelling. -/
def Result.listed (r : Result) : Logged (List String) :=
  if r.isMisspelling then return r.lines
  else if r.passed then return []
  else do
    Logged.tell .warning "lexicheck" s!"{r.file}: {r.message}"
    return []

/-- The listing of a report. -/
def Report.listing (r : Report) : Logged String := do
  let lines ← r.results.mapM Result.listed
  return String.join (lines.flatten.map (· ++ "\n"))

end SpellLint
