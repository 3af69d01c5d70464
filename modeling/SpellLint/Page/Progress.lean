import SpellLint.Page.Basic
import SpellLint.Page.Percent
import SpellLint.Scan

/-! # Showing the progress of a scan -/

set_option autoImplicit false

namespace SpellLint.Page

/-- Shows a bar and a line for the progress of a scan. -/
def startProgress : Page Unit := do
  put (.progressBar 0)
  put .statusLine

/-- Shows how many files there are. -/
def showTotal (total : Int) : Page Unit :=
  if total ≤ 0 then do
    put (.advance 0)
    put (.statusNotice "No files to scan.")
  else put (.statusNotice s!"Discovered {total} file(s). Starting scan…")

/-- Shows that a file is looked at: its number, the number of all files, and the file. -/
def showStep (index total : Int) (file : Path) : Page Unit := do
  if 0 < total then put (.advance (percentOf index total.toNat))
  put (.statusText s!"[{index}/{total}] {file}")

/-- Shows the steps of a scan. -/
def showSteps (steps : List Progress) : Page Unit := steps.forM fun p => showStep p.index p.total p.file

end SpellLint.Page
