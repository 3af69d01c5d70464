import SpellLint.Host
import SpellLint.Log.Setup
import SpellLint.Page.Progress
import SpellLint.Page.Results
import SpellLint.Page.Sidebar

/-! # Running the page

The user picks a folder and settings. When the button is pressed, the dictionary is loaded in full, the folder is
scanned, and the report is shown.
-/

set_option autoImplicit false

namespace SpellLint.Page

open SpellLint.Text

/-- The part of the program that logs. -/
def logger : String := "app"

/-- Asks for the folder; none if the text is blank. -/
def askFolder : Page (Option String) := do
  let text := strip (← askText none "Folder path to scan" none)
  return if text = "" then none else some text

/-- Asks whether the scan is to start. -/
def askStart : Page Value := askButton "Scan folder"

/-- How many files a folder holds. -/
def countFiles (h : Host) (c : Config) (folder : Path) : Page Nat := do
  let files ← require (fun e => ⟨"RuntimeError", e.message⟩) (h.files.search (.of c.extensions c.ignored) folder)
  return files.length

/-- Scans a folder with a loaded dictionary. -/
def scan (h : Host) (c : Config) (config : Value) (d : Dictionary) (folder : Path) : Page Report := do
  let settings := (h.settings.withDictionary (some d)).apply config
  startProgress
  showTotal (← countFiles h c folder)
  let scanned ← logged (Scan.run h.files (.standard settings) (.of c.extensions c.ignored) config [folder])
  let (steps, report) ← require (fun e => ⟨"RuntimeError", e.message⟩) scanned
  showSteps steps
  return report

/-- Shows the report of a folder. -/
def showReport (folder : Path) (report : Report) : Page Unit := do
  put .divider
  showTotals report
  let _ ← showFiles report
  offer (← showResults report)
  logged (Logged.tell .info logger
    s!"Scan completed on {folder}. Files: {report.totals.files}, misspelled spans: {report.totals.misspellings}.")

/-- Scans a folder and shows the report, if the dictionary can be loaded. -/
def serve (h : Host) (config : Value) (folder : Path) : Page Unit := do
  let c := Config.ofValue config
  match ← logged (WordList.load h.files h.builtins (WordList.sourcesOf c [])) with
  | .error e => put (.notice .error s!"Failed to start misspelling check: {e.message}")
  | .ok d => showReport folder (← scan h c config d folder)

/-- The page: what it asks for, and what it shows when the button is pressed. -/
def content (h : Host) (base : Config) : Page Unit := do
  put .pageSettings
  put (.title "lexicheck: Source Spelling")
  put (.caption false "Spell-check identifiers and docstrings in Python projects")
  let entered ← askFolder
  let config ← askOptions base.toValue
  let folder := (entered.map Path.ofString).filter h.files.isFolder
  if let some p := folder then showCount p (← countFiles h (.ofValue config) p)
  if (← askStart).holds then
    match entered, folder with
    | none, _ => put (.notice .error "Please enter a folder path.")
    | some _, none => put (.notice .error "Folder does not exist or is not a directory.")
    | some _, some p => serve h config p

/-- What a page shows for the user's answers. -/
def shown {α : Type} (page : Page α) (answers : Answers) : Except Failure (α × Shown) :=
  (ReaderT.run page answers).run ⟨[], []⟩

/-- Runs the page: what it shows, and the log records that the threshold lets through. -/
def run (h : Host) (answers : Answers) : Except Failure Shown := do
  let base := Config.load h.environment
  let level ← (Log.threshold base.logLevel).mapError fun e => ⟨e.kind, e.message⟩
  let (_, s) ← shown (content h base) answers
  return { s with records := Log.passing level s.records }

end SpellLint.Page
