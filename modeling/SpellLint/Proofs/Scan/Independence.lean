import SpellLint.Proofs.Files.Expansion
import SpellLint.Proofs.Scan.Reports

/-! # Files do not touch each other

What a scan reports on a file is told by the settings, the path and the content of that file. Inputs whose files
have nothing in common can therefore be scanned together or apart, in every order. A session that asks for the
settings anew at every file gives the same report, and leaves the settings that it found.
-/

set_option autoImplicit false

namespace SpellLint

/-! ## Sums -/

instance : Add Totals where
  add a b := ⟨a.files + b.files, a.checks + b.checks, a.errors + b.errors, a.warnings + b.warnings,
    a.infos + b.infos, a.misspellings + b.misspellings⟩

theorem sumOver_append (count : FileReport → Nat) (front back : List FileReport) :
    sumOver count (front ++ back) = sumOver count front + sumOver count back := by
  induction front with
  | nil => exact (Nat.zero_add _).symm
  | cons f front ih =>
    change count f + sumOver count (front ++ back) = count f + sumOver count front + sumOver count back
    rw [ih, Nat.add_assoc]

theorem sumOver_perm (count : FileReport → Nat) {files shuffled : List FileReport} (h : files.Perm shuffled) :
    sumOver count files = sumOver count shuffled := by
  induction h with
  | nil => rfl
  | cons f _ ih => exact congrArg (count f + ·) ih
  | swap f g files => exact Nat.add_left_comm _ _ _
  | trans _ _ ih ih' => exact ih.trans ih'

theorem Totals.ofFiles_append (front back : List FileReport) :
    ofFiles (front ++ back) = ofFiles front + ofFiles back := by
  unfold ofFiles
  rw [List.length_append]
  simp only [sumOver_append]
  rfl

theorem Totals.ofFiles_perm {files shuffled : List FileReport} (h : files.Perm shuffled) :
    ofFiles files = ofFiles shuffled := by
  unfold ofFiles
  rw [h.length_eq]
  simp only [sumOver_perm _ h]

namespace Report

/-- Two reports as one: the files of the first before those of the second, with the sums of both. -/
def followedBy (a b : Report) : Report where
  inputs := a.inputs ++ b.inputs
  config := a.config
  totals := a.totals + b.totals
  hadMistakes := a.hadMistakes || b.hadMistakes
  files := a.files ++ b.files

theorem ofFiles_append (xs ys : List Path) (config : Value) (front back : List FileReport) :
    ofFiles (xs ++ ys) config (front ++ back) = (ofFiles xs config front).followedBy (ofFiles ys config back) := by
  unfold ofFiles followedBy
  rw [Totals.ofFiles_append, List.any_append]

theorem ofFiles_perm (shuffled : List Path) (config : Value) {files others : List FileReport} (h : files.Perm others)
    (inputs : List Path) :
    ofFiles shuffled config others =
      { ofFiles inputs config files with inputs := shuffled, files := others } := by
  unfold ofFiles
  rw [Totals.ofFiles_perm h, h.any_eq]

end Report

namespace Scan

/-! ## Sessions -/

/-- Reports on a file with the settings that are in force. -/
def visit (fs : FileSystem) (file : Path) : StateT Settings Logged FileReport := do
  let settings ← get
  scanFile fs (.standard settings) file

/-- A scan that asks for the settings at every file. -/
def session (fs : FileSystem) (selection : Selection) (config : Value) (inputs : List Path) :
    StateT Settings Logged (Except FileSystem.LinkLoop (List Progress × Report)) := do
  match fs.expand selection inputs with
  | .error e => return .error e
  | .ok files =>
    Logged.tell .info logger s!"Scanning {files.length} file(s)"
    let reports ← files.mapM (visit fs)
    return .ok (steps files, .ofFiles inputs config reports)

/-- A file leaves the settings that it found. -/
theorem visit_run (fs : FileSystem) (file : Path) (settings : Settings) :
    (visit fs file).run settings = (·, settings) <$> scanFile fs (.standard settings) file := by
  simp [visit]

/-- So do all files. -/
theorem mapM_visit_run (fs : FileSystem) (files : List Path) (settings : Settings) :
    (files.mapM (visit fs)).run settings = (·, settings) <$> files.mapM (scanFile fs (.standard settings)) := by
  induction files with
  | nil => simp
  | cons file files ih => simp [visit_run, ih]

theorem session_run (fs : FileSystem) (selection : Selection) (config : Value) (inputs : List Path)
    (settings : Settings) :
    (session fs selection config inputs).run settings =
      (·, settings) <$> run fs (.standard settings) selection config inputs := by
  unfold session run
  cases fs.expand selection inputs with
  | error e => simp
  | ok files => simp [mapM_visit_run]

/-! ## Scans of several inputs -/

section

variable (fs : FileSystem) (settings : Settings) (selection : Selection) (config : Value)

/-- The report of a scan with the standard plugins. -/
def scanned (inputs : List Path) : Except FileSystem.LinkLoop Report :=
  (run fs (.standard settings) selection config inputs).value.map (·.2)

theorem scanned_eq (inputs : List Path) :
    scanned fs settings selection config inputs = (fs.expand selection inputs).map fun files =>
      .ofFiles inputs config (files.map (reportOn fs (.standard settings))) := by
  unfold scanned
  rw [run_value]
  cases fs.expand selection inputs <;> rfl

theorem scanned_eq_ok_iff {inputs : List Path} {report : Report} :
    scanned fs settings selection config inputs = .ok report ↔
      ∃ files, fs.expand selection inputs = .ok files ∧
        report = .ofFiles inputs config (files.map (reportOn fs (.standard settings))) := by
  rw [scanned_eq]
  cases fs.expand selection inputs with
  | error e =>
    constructor
    · intro h
      cases h
    · rintro ⟨_, h, _⟩
      cases h
  | ok files =>
    constructor
    · intro h
      exact ⟨files, rfl, (Except.ok.inj h).symm⟩
    · rintro ⟨_, h, rfl⟩
      cases h
      rfl

/-- Every report on a file is the one that reading the file tells. -/
theorem eq_reportFrom_of_scanned {inputs : List Path} {report : Report}
    (h : scanned fs settings selection config inputs = .ok report) :
    ∀ r ∈ report.files, r = reportFrom settings r.file (fs.read r.file) := by
  obtain ⟨files, -, rfl⟩ := (scanned_eq_ok_iff fs settings selection config).mp h
  intro r member
  obtain ⟨file, -, rfl⟩ := List.mem_map.mp member
  rw [reportOn_standard]
  rfl

theorem scanned_append {xs ys : List Path}
    (apart : ∀ fx fy, fs.expand selection xs = .ok fx → fs.expand selection ys = .ok fy → ∀ p ∈ fx, p ∉ fy) :
    scanned fs settings selection config (xs ++ ys) = do
      let front ← scanned fs settings selection config xs
      let back ← scanned fs settings selection config ys
      return front.followedBy back := by
  rw [scanned_eq, scanned_eq, scanned_eq, FileSystem.expand_append fs selection apart]
  cases fs.expand selection xs with
  | error e => rfl
  | ok fx =>
    cases fs.expand selection ys with
    | error e => rfl
    | ok fy =>
      let report := reportOn fs (.standard settings)
      have joined : Report.ofFiles (xs ++ ys) config ((fx ++ fy).map report) =
          (Report.ofFiles xs config (fx.map report)).followedBy (.ofFiles ys config (fy.map report)) := by
        rw [List.map_append, Report.ofFiles_append]
      exact congrArg Except.ok joined

theorem scanned_perm {inputs shuffled : List Path} (h : inputs.Perm shuffled) {report : Report}
    (done : scanned fs settings selection config inputs = .ok report) :
    ∃ files, report.files.Perm files ∧
      scanned fs settings selection config shuffled =
        .ok { report with inputs := shuffled, files := files } := by
  obtain ⟨found, expanded, rfl⟩ := (scanned_eq_ok_iff fs settings selection config).mp done
  obtain ⟨others, expanded, perm⟩ := FileSystem.expand_perm fs selection h expanded
  have reports := perm.map (reportOn fs (.standard settings))
  refine ⟨others.map (reportOn fs (.standard settings)), reports, ?_⟩
  rw [scanned_eq, expanded, ← Report.ofFiles_perm shuffled config reports inputs]
  rfl

/-- Inputs whose files have nothing in common may be scanned together or apart: the reports on the files follow each
other, the sums are added, and there are mistakes if there are in either. A session leaves the settings as they were,
another order of the inputs only gives the reports on the files in another order, and a file with the same content
has the same report wherever and with whatever else it is scanned. -/
theorem files_independent {xs ys : List Path}
    (apart : ∀ fx fy, fs.expand selection xs = .ok fx → fs.expand selection ys = .ok fy → ∀ p ∈ fx, p ∉ fy) :
    (scanned fs settings selection config (xs ++ ys) = do
      let front ← scanned fs settings selection config xs
      let back ← scanned fs settings selection config ys
      return front.followedBy back) ∧
    (∀ inputs, (session fs selection config inputs).run settings =
      (·, settings) <$> run fs (.standard settings) selection config inputs) ∧
    (∀ inputs shuffled report, inputs.Perm shuffled →
      scanned fs settings selection config inputs = .ok report →
        ∃ files, report.files.Perm files ∧
          scanned fs settings selection config shuffled =
            .ok { report with inputs := shuffled, files := files }) ∧
    (∀ fs' selection' config' inputs inputs' report report',
      scanned fs settings selection config inputs = .ok report →
      scanned fs' settings selection' config' inputs' = .ok report' →
        ∀ r ∈ report.files, ∀ r' ∈ report'.files, r.file = r'.file → fs.read r.file = fs'.read r'.file → r = r') := by
  refine ⟨scanned_append fs settings selection config apart, ?_, ?_, ?_⟩
  · intro inputs
    exact session_run fs selection config inputs settings
  · intro inputs shuffled report h done
    exact scanned_perm fs settings selection config h done
  · intro fs' selection' config' inputs inputs' report report' done done' r member r' member' same content
    calc r = reportFrom settings r.file (fs.read r.file) :=
          eq_reportFrom_of_scanned fs settings selection config done r member
      _ = reportFrom settings r'.file (fs'.read r'.file) := by rw [same, ← content, same]
      _ = r' := (eq_reportFrom_of_scanned fs' settings selection' config' done' r' member').symm

end

/-! ## Two files -/

/-- Two files in the root folder. -/
def twoFiles (first second : List UInt8) : FileSystem where
  top := .folder [("a.py", .file first), ("b.py", .file second)]
  here := []

theorem expand_twoFiles (first second : List UInt8) {name : String} (h : name = "a.py" ∨ name = "b.py") :
    (twoFiles first second).expand ⟨[".py"], []⟩ [⟨"", [name]⟩] = .ok [⟨"/", [name]⟩] := by
  have located : (twoFiles first second).locate .existing ⟨"", [name]⟩ = .ok [name] := by
    rcases h with rfl | rfl <;> simp [twoFiles, FileSystem.locate, FileSystem.follow, FileSystem.start,
      Path.isAbsolute, Entry.under?, Entry.child?]
  have file : (twoFiles first second).isFolder ⟨"", [name]⟩ = false := by
    rw [FileSystem.isFolder, FileSystem.entry, located]
    rcases h with rfl | rfl <;> rfl
  have resolved : (twoFiles first second).resolve ⟨"", [name]⟩ = .ok ⟨"/", [name]⟩ := by
    rcases h with rfl | rfl <;> simp [twoFiles, FileSystem.resolve, FileSystem.resolveNames,
      FileSystem.start, Path.isAbsolute, Entry.under?, Entry.child?]
  rw [FileSystem.expand_eq, List.mapM_cons, FileSystem.filesOf, file, FileSystem.resolved, resolved]
  rfl

/-- The words that one file asks to accept do not touch the other file. -/
theorem files_independent_two :
    let files := twoFiles "__lexicheck_words__ = 'zork'\nzork = 1\n".toUTF8.toList "zork = 1\n".toUTF8.toList
    let scan := scanned files ⟨some .empty, .standard⟩ ⟨[".py"], []⟩ .null
    scan ([⟨"", ["a.py"]⟩] ++ [⟨"", ["b.py"]⟩]) = do
      let front ← scan [⟨"", ["a.py"]⟩]
      let back ← scan [⟨"", ["b.py"]⟩]
      return front.followedBy back := by
  apply (files_independent _ _ _ _ ?_).1
  intro fx fy front back p member
  rw [expand_twoFiles _ _ (.inl rfl)] at front
  rw [expand_twoFiles _ _ (.inr rfl)] at back
  cases front
  cases back
  rw [List.mem_singleton] at member ⊢
  rw [member]
  decide

end Scan

end SpellLint
