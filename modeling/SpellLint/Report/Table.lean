import SpellLint.Report

/-! # Reports as tables

Tables of comma-separated values: one with a row for every file, one with a row for every misspelling. A cell is
put between quotes if it holds a comma, a quote or a character of the line end, and quotes inside are written twice.
-/

set_option autoImplicit false

namespace SpellLint

/-! ## Cells and rows -/

/-- Whether a cell has to be put between quotes in a table whose lines end in `lineEnd`. -/
def needsQuotes (lineEnd cell : String) : Bool :=
  cell.toList.any fun c => c = ',' || c = '"' || lineEnd.toList.contains c

/-- A character inside quotes: quotes are written twice. -/
def doubledQuote (c : Char) : List Char := if c = '"' then ['"', '"'] else [c]

/-- A cell of a table. -/
def tableCell (lineEnd cell : String) : String :=
  if needsQuotes lineEnd cell then "\"" ++ String.ofList (cell.toList.flatMap doubledQuote) ++ "\"" else cell

/-- A row of a table. -/
def tableRow (lineEnd : String) (cells : List String) : String :=
  ",".intercalate (cells.map (tableCell lineEnd)) ++ lineEnd

/-- A table whose lines end in `lineEnd`. -/
def tableOf (lineEnd : String) (rows : List (List String)) : String := String.join (rows.map (tableRow lineEnd))

/-- The line end of tables that are written to files. -/
def fileLineEnd : String := "\r\n"

/-! ## Words -/

namespace Value

/-- The name of the class of a value. -/
def className : Value → String
  | null => "NoneType"
  | bool _ => "bool"
  | int _ => "int"
  | decimal _ _ => "float"
  | text _ => "str"
  | list _ => "list"
  | record _ => "dict"

/-- The texts of a list whose items are counted from a number. -/
def textItems : Nat → List Value → Except Failure (List String)
  | _, [] => .ok []
  | n, text s :: rest => do return s :: (← textItems (n + 1) rest)
  | n, v :: _ => .error ⟨"TypeError", s!"sequence item {n}: expected str instance, {v.className} found"⟩

/-- The texts in a value: the items of a list, the characters of a text, or the names of a record. -/
def texts? : Value → Except Failure (List String)
  | list items => textItems 0 items
  | text s => .ok (s.toList.map Char.toString)
  | record fields => .ok (fields.map (·.1))
  | _ => .error ⟨"TypeError", "can only join an iterable"⟩

end Value

namespace Result

/-- The words of a result, joined; none if it does not mention words. -/
def words (r : Result) (sep : String) : Except Failure String :=
  if r.details.has "words" then return sep.intercalate (← (r.details.get "words").texts?) else return ""

/-- Where a result is; `dflt` if it does not say. -/
def location (r : Result) (dflt : String) : Value :=
  if r.details.has "location" then r.details.get "location" else .text dflt

/-- The line of the source that a result shows; the empty text if there is none. -/
def sourceLine (r : Result) : Value :=
  let line := r.details.get "source_line"
  if line.holds then line else .text ""

end Result

/-! ## Tables -/

/-- The text of a cell that holds a value; null leaves it empty. -/
def cellText : Value → String
  | .null => ""
  | v => v.shown

namespace Report

/-- The row of a file. -/
def fileRow (f : FileReport) : List String :=
  [f.file.toString, f.extension, toString f.size, f.verdict.label, toString f.errors, toString f.warnings,
    toString f.infos, toString f.misspellings]

/-- The table of the files. -/
def filesTable (r : Report) : String :=
  tableOf fileLineEnd
    (["File", "Extension", "SizeBytes", "Verdict", "Errors", "Warnings", "Infos", "Misspellings"] ::
      r.files.map fileRow)

/-- The row of a misspelling. -/
def misspellingRow (r : Result) : Except Failure (List String) := do
  let span := r.span.getD .origin
  return [r.file.toString, cellText (r.location ""), toString span.start, toString span.stop, ← r.words " ",
    cellText r.sourceLine]

/-- The rows of the misspellings, in the order of the report. -/
def misspellingRows (r : Report) : Except Failure (List (List String)) := r.misspelled.mapM misspellingRow

/-- The table of the misspellings. -/
def misspellingsTable (r : Report) : Except Failure String := do
  return tableOf fileLineEnd (["File", "Location", "Start", "End", "Words", "SourceLine"] :: (← r.misspellingRows))

end Report

end SpellLint
