import SpellLint.Check.Spelling
import SpellLint.Files.Discovery
import SpellLint.Processor
import SpellLint.Registry
import SpellLint.Report
import SpellLint.Source.SourceFile

/-! # Scans

Every file that the inputs stand for is read by the processor of its extension and looked at by the checks that
apply to it, one file at a time. A processor or a check that breaks down on a file leaves an error in its report
and does not stop the scan.
-/

set_option autoImplicit false

namespace SpellLint

open SpellLint.Text

/-- What a scan can use. -/
structure Plugins where
  processors : Registry Processor
  checks : Registry Check

/-- The processor of the checked language and the spelling check. -/
def Plugins.standard (settings : Settings) : Plugins where
  processors := Registry.empty.register ⟨"source", []⟩ Source.processor
  checks := Registry.empty.register ⟨"spelling", []⟩ (spellingCheck settings)

/-- A step of a scan: its number, the number of all steps, and the file. -/
structure Progress where
  index : Nat
  total : Nat
  file : Path
  deriving DecidableEq, Repr

namespace Scan

/-- The part of the program that logs. -/
def logger : String := "services.orchestrator"

/-- Whether a check applies to an extension; a star stands for all extensions. -/
def applies (check : Check) (extension : String) : Bool :=
  let targets := check.appliesTo.map lower
  targets.contains "*" || targets.contains extension

/-- The result of a check; one that breaks down leaves an error. -/
def runCheck (artifact : Artifact) (check : Check) : Logged (List Result) := do
  match ← check.run artifact with
  | .ok results => return results
  | .error e =>
    Logged.tell .error logger s!"Check {check.name} crashed on {artifact.path}"
    return [⟨artifact.path, check.name, .error, false, s!"Check raised exception: {e.message}",
      .record [("exception", .text e.kind)], none⟩]

/-- The results of all checks that apply to a file. -/
def runChecks (checks : List Check) (extension : String) (artifact : Artifact) : Logged (List Result) := do
  return (← (checks.filter (applies · extension)).mapM (runCheck artifact)).flatten

/-- The result for a file that no processor reads. -/
def unsupported (file : Path) (extension : String) : Result :=
  let shown := if extension = "" then "(none)" else extension
  ⟨file, "No processor found", .warning, false, s!"No processor registered for extension: {shown}",
    .record [("extension", .text extension)], none⟩

/-- The result for a file on which its processor broke down. -/
def unbuilt (file : Path) (e : Failure) : Result :=
  ⟨file, "Artifact build failed", .error, false, if e.message = "" then e.kind else e.message,
    .record [("exception", .text e.kind)], none⟩

/-- The results for a file. -/
def resultsFor (fs : FileSystem) (plugins : Plugins) (file : Path) : Logged (List Result) := do
  match plugins.processors.claimant (·.supports) file.extension with
  | none => return [unsupported file file.extension]
  | some p =>
    match ← p.build fs file with
    | .error e =>
      Logged.tell .error logger s!"Artifact build failed for {file}: {e.message}"
      return [unbuilt file e]
    | .ok artifact => runChecks plugins.checks.toList file.extension artifact

/-- The number of bytes of a file; zero if it cannot be found. -/
def sizeOf (fs : FileSystem) (file : Path) : Nat :=
  match fs.size file with
  | .ok n => n
  | .error _ => 0

/-- The report of a file. -/
def scanFile (fs : FileSystem) (plugins : Plugins) (file : Path) : Logged FileReport := do
  return .ofResults file file.extension (sizeOf fs file) (← resultsFor fs plugins file)

/-- The steps of a scan of files. -/
def steps (files : List Path) : List Progress :=
  files.zipIdx.map fun (file, i) => ⟨i + 1, files.length, file⟩

/-- The report of the files that inputs stand for; `config` is kept with it. -/
def run (fs : FileSystem) (plugins : Plugins) (selection : Selection) (config : Value) (inputs : List Path) :
    Logged (Except FileSystem.LinkLoop (List Progress × Report)) :=
  match fs.expand selection inputs with
  | .error e => return .error e
  | .ok files => do
    Logged.tell .info logger s!"Scanning {files.length} file(s)"
    let reports ← files.mapM (scanFile fs plugins)
    return .ok (steps files, .ofFiles inputs config reports)

end Scan

end SpellLint
