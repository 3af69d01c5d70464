import SpellLint.Page.Basic
import SpellLint.Pattern.Reader
import SpellLint.Report.Table
import SpellLint.Value.Json

/-! # Showing a report

The totals, a table of the files, and a table of the results that a filter keeps, which can be downloaded. The
text of a filter is a pattern that is looked for in files, words and messages, all of them in small letters.
-/

set_option autoImplicit false

namespace SpellLint

open SpellLint.Text

/-! ## Rows of results -/

/-- A result as it is shown. -/
structure ResultRow where
  file : String
  verdict : Verdict
  location : Value
  words : String
  line : Value
  severity : Severity
  passed : Bool
  message : String

namespace ResultRow

/-- The row of a result of a file. -/
def ofResult (f : FileReport) (r : Result) : Except Failure ResultRow := do
  return ⟨f.file.toString, f.verdict, r.location "", ← r.words ", ", r.sourceLine, r.severity, r.passed,
    r.message⟩

/-- The cells of a row with their columns. -/
def cells (r : ResultRow) : List (String × Value) :=
  [("File", .text r.file), ("Verdict", .text r.verdict.label), ("Location", r.location), ("Words", .text r.words),
    ("Line", r.line), ("Severity", .text r.severity.label), ("Passed", .bool r.passed),
    ("Message", .text r.message)]

/-- The columns of rows. -/
def columns : List String := ["File", "Verdict", "Location", "Words", "Line", "Severity", "Passed", "Message"]

end ResultRow

/-- The rows of a report: by file, then by place in the file. -/
def Report.rows (r : Report) : Except Failure (List ResultRow) :=
  (r.files.flatMap fun f => f.results.map fun x => (f, x)).mapM fun (f, x) => ResultRow.ofResult f x

/-! ## Filters -/

/-- Which rows are wanted: by their severity, by whether they passed, and by a text unless it is empty. -/
structure Filter where
  severities : List String
  passed : List Bool
  text : String
  deriving DecidableEq, Repr

namespace Filter

/-- Whether a row has a wanted severity and passed as wanted. -/
def selects (f : Filter) (r : ResultRow) : Bool :=
  f.severities.contains r.severity.label && f.passed.contains r.passed

/-- Whether a pattern is found in a row. -/
def finds (p : Pattern) (r : ResultRow) : Bool :=
  p.matchesIn (lower r.file) || p.matchesIn (lower r.words) || p.matchesIn (lower r.message)

/-- The pattern of the text of a filter; none if it is empty. -/
def pattern (f : Filter) : Except PatternError (Option Pattern) :=
  if f.text = "" then return none else some <$> Pattern.ofText (lower f.text)

/-- The wanted rows in their order, with their numbers among all rows. -/
def keep (f : Filter) (rows : List ResultRow) : Except PatternError (List (Nat × ResultRow)) := do
  let p ← f.pattern
  return ((rows.zipIdx.map fun (r, i) => (i, r)).filter fun (_, r) => f.selects r && p.all (finds · r))

/-- What is said about a filter whose text is no pattern. -/
def failure (f : Filter) (e : PatternError) : Failure := ⟨e.fault.kind, e.message (lower f.text)⟩

end Filter

namespace Page

/-! ## Totals and files -/

/-- Shows the totals. -/
def showTotals (r : Report) : Page Unit := do
  put (.subheader "Summary")
  put (.columns 5)
  put (.metric 0 "Files" r.totals.files)
  put (.metric 1 "Misspelled spans" r.totals.misspellings)
  put (.metric 2 "Errors" r.totals.errors)
  put (.metric 3 "Warnings" r.totals.warnings)
  put (.metric 4 "Info" r.totals.infos)
  if r.hadMistakes then put (.notice .warning "Misspellings found.")
  else put (.notice .success "No misspellings found.")

/-- Whether a file comes before another: more misspellings first, then by name. -/
def comesBefore (a b : FileReport) : Bool :=
  b.misspellings < a.misspellings || (a.misspellings = b.misspellings && a.file.toString ≤ b.file.toString)

/-- The row of a file. -/
def fileCells (f : FileReport) : List Value :=
  [.text f.file.toString, .text f.verdict.label, .int f.misspellings, .int f.errors, .int f.warnings]

/-- The table of the files. -/
def filesTable (files : List FileReport) : DataTable where
  columns := ["File", "Verdict", "Misspellings", "Errors", "Warnings"]
  rows := ((files.mergeSort comesBefore).zipIdx).map fun (f, i) => (i, fileCells f)

/-- Shows the files. -/
def showFiles (r : Report) : Page DataTable := do
  if r.files.isEmpty then
    put (.notice .info "No files found.")
    return .none
  put (.expander "Files (summary)")
  let t := filesTable r.files
  put (.table t)
  return t

/-! ## Results -/

/-- The severities of rows in ascending order, each once. -/
def severitiesOf (rows : List ResultRow) : List String :=
  (rows.map (·.severity.label)).eraseDups.mergeSort (· ≤ ·)

/-- Asks for the filter of rows. -/
def askFilter (rows : List ResultRow) : Page Filter := do
  put (.expander "Results (filters)")
  put (.columns 3)
  let all := (severitiesOf rows).map Value.text
  let severities ← askChoice 0 "Severity" all all
  let passed ← askChoice 1 "Passed" [.bool true, .bool false] [.bool false]
  let text ← askText (some 2) "Text filter" (some "")
  return ⟨severities.filterMap Value.text?, passed.filterMap Value.bool?, text⟩

/-- The table of rows with their numbers. -/
def resultsTable (rows : List (Nat × ResultRow)) : DataTable :=
  ⟨ResultRow.columns, rows.map fun (i, r) => (i, r.cells.map (·.2))⟩

/-- Shows the results that a filter keeps. -/
def showResults (r : Report) : Page DataTable := do
  let rows ← require id r.rows
  if rows.isEmpty then
    put (.notice .info "No results to show.")
    return .none
  let filter ← askFilter rows
  let t := resultsTable (← require filter.failure (filter.keep rows))
  put (.table t)
  return t

/-! ## Downloads -/

/-- A table as comma-separated values. -/
def csvOf (t : DataTable) : String := tableOf "\n" (t.columns :: t.rows.map fun r => r.2.map cellText)

/-- Offers a table for download, unless it is empty. -/
def offer (t : DataTable) : Page Unit := do
  if t.rows.isEmpty then return
  put (.columns 2)
  put (.download 0 "Download CSV" (csvOf t) "lexicheck_results.csv" "text/csv")
  put (.download 1 "Download JSON" ((Value.list t.records).json .page) "lexicheck_results.json" "application/json")

end Page

end SpellLint
