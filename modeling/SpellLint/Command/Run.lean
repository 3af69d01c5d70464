import SpellLint.Command.Arguments
import SpellLint.Command.Help
import SpellLint.Host
import SpellLint.Log.Setup
import SpellLint.Report.Json
import SpellLint.Report.Listing
import SpellLint.Scan

/-! # Running the command

A run checks the files that its arguments name, lists the misspellings, and writes the tables that are asked for.
The dictionary is loaded in full before any file is read; a run without it does not start.
-/

set_option autoImplicit false

namespace SpellLint.Command

/-! ## What a run leaves -/

/-- How a run ends: its exit status, what it prints, its log records, and what it leaves behind. -/
structure Outcome where
  status : Nat
  output : String
  errors : String
  records : List Log.Record
  files : FileSystem
  settings : Settings

/-- No misspelling was found. -/
def statusClean : Nat := 0

/-- There are misspellings. -/
def statusMistakes : Nat := 1

/-- The command line is wrong. -/
def statusUsage : Nat := 2

/-- The dictionary could not be loaded. -/
def statusUnloaded : Nat := 10

/-- What is said about a wrong command line. -/
def refusal (message : String) : String := usage ++ name ++ ": error: " ++ message ++ "\n"

namespace Outcome

/-- A run that only prints its help. -/
def helpShown (h : Host) (text : String) : Outcome := ⟨statusClean, text, "", [], h.files, h.settings⟩

/-- A run that is refused. -/
def refused (h : Host) (message : String) : Outcome :=
  ⟨statusUsage, "", refusal message, [], h.files, h.settings⟩

end Outcome

/-! ## The configuration of a run -/

/-- The configuration of a request: its options outweigh the environment. -/
def Request.configure (r : Request) (c : Config) : Config :=
  { c with
    useDefault := c.useDefault && !r.noDefault
    defaultList := r.defaultList.getD c.defaultList
    language := r.language.getD c.language
    logLevel := Text.upper (r.logLevel.getD c.logLevel)
    policy :=
      { exportedOnly := r.exportedOnly || c.policy.exportedOnly
        possessives := r.possessives || c.policy.possessives
        comments := r.comments || c.policy.comments } }

/-- The configuration that is kept with a report: it names all word lists. -/
def Request.snapshot (r : Request) (c : Config) : Value :=
  { c with wordLists := c.wordLists ++ r.wordLists }.toValue

/-! ## Writing tables -/

/-- Writes a text to a file. -/
def writeText (fs : FileSystem) (p : Path) (text : String) : Logged (Except Failure FileSystem) :=
  match fs.write p text.toUTF8.toList with
  | .error e => return .error (e.failure p)
  | .ok written => do
    Logged.tell .info name s!"Wrote {p}"
    return .ok written

/-- Writes the texts that are asked for, up to the first that cannot be written. -/
def writeTexts (fs : FileSystem) : List (Path × Except Failure String) → Logged (Except Failure FileSystem)
  | [] => return .ok fs
  | (_, .error e) :: _ => return .error e
  | (p, .ok text) :: rest => do
    match ← writeText fs p text with
    | .error e => return .error e
    | .ok written => writeTexts written rest

/-- The tables that a request asks for: the full report, the misspellings, and the files. -/
def Request.tables (r : Request) (stamp : Stamp) (report : Report) : List (Path × Except Failure String) :=
  (r.json.map (·, .ok (report.json stamp))).toList ++ (r.csv.map (·, report.misspellingsTable)).toList ++
    (r.filesCsv.map (·, .ok report.filesTable)).toList

/-! ## Running -/

/-- Runs a scan with a loaded dictionary: what it prints, whether there are misspellings, and the files it leaves. -/
def check (h : Host) (r : Request) (stamp : Stamp) (c : Config) (settings : Settings) :
    Logged (Except Failure (String × Bool × FileSystem)) := do
  let selection := Selection.of c.extensions c.ignored
  match ← Scan.run h.files (.standard settings) selection (r.snapshot c) r.paths with
  | .error e => return .error ⟨"RuntimeError", e.message⟩
  | .ok (_, report) =>
    let listing ← report.listing
    match ← writeTexts h.files (r.tables stamp report) with
    | .error e => return .error e
    | .ok files => return .ok (listing, report.hadMistakes, files)

/-- Runs a request whose paths exist; `level` is the threshold of the log. -/
def serve (h : Host) (r : Request) (stamp : Stamp) (c : Config) (level : Nat) : Except Failure Outcome :=
  let loading := WordList.load h.files h.builtins (WordList.sourcesOf c (r.wordLists.map .ofString))
  match loading.value with
  | .error e =>
    let failed : Log.Record := ⟨.error, name, s!"failed to start misspelling check: {e.message}"⟩
    .ok ⟨statusUnloaded, "", "", Log.passing level (loading.records ++ [failed]), h.files, h.settings⟩
  | .ok d =>
    let settings := (h.settings.withDictionary (some d)).apply c.toValue
    let checked := check h r stamp c settings
    checked.value.map fun (output, mistakes, files) =>
      ⟨if mistakes then statusMistakes else statusClean, output, "",
        Log.passing level (loading.records ++ checked.records), files, settings⟩

/-- Runs a request. -/
def execute (h : Host) (stamp : Stamp) (environment : Config) (r : Request) : Except Failure Outcome :=
  match r.paths.filter (!h.files.holds ·) with
  | [] =>
    let c := r.configure environment
    match Log.threshold c.logLevel with
    | .error e => .error ⟨e.kind, e.message⟩
    | .ok level => serve h r stamp c level
  | missing =>
    .ok (.refused h ("no such file or directory: " ++ ", ".intercalate (missing.map Path.toString)))

/-- Runs the command. -/
def run (h : Host) (stamp : Stamp) (arguments : List String) : Except Failure Outcome :=
  let environment := Config.load h.environment
  let table := options environment.toValue
  match request table arguments with
  | .error .help => .ok (.helpShown h (help table))
  | .error (.wrong message) => .ok (.refused h message)
  | .error (.broken e) => .error e
  | .ok r => execute h stamp environment r

end SpellLint.Command
