import Mathlib.Data.List.Forall2
import SpellLint.Proofs.Files.Resolution
import SpellLint.Proofs.Scan.Independence

/-! # Breakdowns are contained

A processor or a check may break down on any file. A scan goes on whatever happens: it reports on every file once, and
its steps are the files in order. What breaks down leaves one failed error where its results would stand, beside the
results of the other checks (`Accounted`), and no trace in the reports on other files (`reportOn_of_mends`). Counts
and verdict of a report always fit its results (`FileReport.Consistent`).
-/

set_option autoImplicit false

namespace SpellLint

/-! ## Counts and verdicts -/

/-- A result that failed with a severity. -/
def Result.FailedAs (severity : Severity) (r : Result) : Prop := r.severity = severity ∧ r.passed = false

instance (severity : Severity) : DecidablePred (Result.FailedAs severity) :=
  fun r => inferInstanceAs (Decidable (r.severity = severity ∧ r.passed = false))

/-- The counts and the verdict of a report fit its results. -/
structure FileReport.Consistent (r : FileReport) : Prop where
  fail_iff : r.verdict = .fail ↔ ∃ x ∈ r.results, x.FailedAs .error
  warn_iff : r.verdict = .warn ↔ (∃ x ∈ r.results, x.FailedAs .warning) ∧ ¬ ∃ x ∈ r.results, x.FailedAs .error
  pass_iff : r.verdict = .pass ↔ (¬ ∃ x ∈ r.results, x.FailedAs .warning) ∧ ¬ ∃ x ∈ r.results, x.FailedAs .error
  errors : r.errors = (r.results.filter (Result.FailedAs .error)).length
  warnings : r.warnings = (r.results.filter (Result.FailedAs .warning)).length
  infos : r.infos = (r.results.filter (·.severity = .info)).length
  misspellings : r.misspellings = (r.results.filter fun x => x.span ≠ none ∧ x.passed = false).length

theorem Result.countP_failed (severity : Severity) (results : List Result) :
    (results.countP fun r => r.severity = severity && !r.passed) =
      (results.filter (Result.FailedAs severity)).length := by
  rw [List.countP_eq_length_filter]
  congr 2
  funext r
  rw [Bool.eq_iff_iff, Bool.and_eq_true, Bool.not_eq_true', decide_eq_true_iff, decide_eq_true_iff]
  rfl

theorem Result.exists_failed_iff (severity : Severity) (results : List Result) :
    0 < (results.filter (Result.FailedAs severity)).length ↔ ∃ r ∈ results, r.FailedAs severity := by
  simp [List.length_pos_iff_exists_mem]

theorem Result.countP_isMisspelling (results : List Result) :
    results.countP Result.isMisspelling = (results.filter fun r => r.span ≠ none ∧ r.passed = false).length := by
  rw [List.countP_eq_length_filter]
  congr 2
  funext r
  rw [Bool.eq_iff_iff, decide_eq_true_iff, Result.isMisspelling, Bool.and_eq_true, Bool.not_eq_true',
    Option.isSome_iff_ne_none]

theorem FileReport.verdictOf_eq (errors warnings : Nat) :
    (verdictOf errors warnings = .fail ↔ 0 < errors) ∧
      (verdictOf errors warnings = .warn ↔ 0 < warnings ∧ ¬ 0 < errors) ∧
      (verdictOf errors warnings = .pass ↔ ¬ 0 < warnings ∧ ¬ 0 < errors) := by
  unfold verdictOf
  split
  · next some => simp [some]
  · next none =>
    split
    · next some => simp [none, some]
    · next none' => simp [none, none']

theorem FileReport.consistent_ofResults (file : Path) (extension : String) (size : Nat) (results : List Result) :
    (ofResults file extension size results).Consistent := by
  have errors := Result.countP_failed .error results
  have warnings := Result.countP_failed .warning results
  have failed := Result.exists_failed_iff .error results
  have warned := Result.exists_failed_iff .warning results
  rw [← errors] at failed
  rw [← warnings] at warned
  obtain ⟨fail, warn, pass⟩ := verdictOf_eq (results.countP fun r => r.severity = .error && !r.passed)
    (results.countP fun r => r.severity = .warning && !r.passed)
  rw [failed] at fail warn pass
  rw [warned] at warn pass
  exact ⟨fail, warn, pass, errors, warnings, List.countP_eq_length_filter, Result.countP_isMisspelling results⟩

namespace Scan

/-! ## What a check adds to a report -/

/-- What a check adds to the report on a file: its results, or one failed error without a span if it breaks down. -/
inductive Adds (artifact : Artifact) (check : Check) : List Result → Prop
  | results {results : List Result} (ran : (check.run artifact).value = .ok results) : Adds artifact check results
  | failure {e : Failure} {r : Result} (broke : (check.run artifact).value = .error e) (failed : r.FailedAs .error)
      (own : r.check = check.name) (nowhere : r.span = none) : Adds artifact check [r]

/-- Where the results for a file come from: nobody reads the file, its processor breaks down on it, or every check that
applies to it adds its part, in the order of registration. -/
inductive Accounted (fs : FileSystem) (plugins : Plugins) (file : Path) : List Result → Prop
  | unclaimed (nobody : plugins.processors.claimant (·.supports) file.extension = none) :
      Accounted fs plugins file [unsupported file file.extension]
  | unbuilt {p : Processor} {e : Failure} {r : Result}
      (claimed : plugins.processors.claimant (·.supports) file.extension = some p)
      (broke : (p.build fs file).value = .error e) (failed : r.FailedAs .error) (nowhere : r.span = none) :
      Accounted fs plugins file [r]
  | checked {p : Processor} {artifact : Artifact} {parts : List (List Result)}
      (claimed : plugins.processors.claimant (·.supports) file.extension = some p)
      (built : (p.build fs file).value = .ok artifact)
      (added : List.Forall₂ (Adds artifact) (plugins.checks.toList.filter (applies · file.extension)) parts) :
      Accounted fs plugins file parts.flatten

theorem runCheck_adds (artifact : Artifact) (check : Check) : Adds artifact check (runCheck artifact check).value := by
  unfold runCheck
  rw [Logged.value_bind]
  cases ran : (check.run artifact).value with
  | ok results => exact .results ran
  | error e => exact .failure ran ⟨rfl, rfl⟩ rfl rfl

theorem runChecks_value (checks : List Check) (extension : String) (artifact : Artifact) :
    (runChecks checks extension artifact).value =
      ((checks.filter (applies · extension)).map fun check => (runCheck artifact check).value).flatten := by
  unfold runChecks
  rw [Logged.value_bind, Logged.value_pure, Logged.value_mapM]

theorem results_reportOn (fs : FileSystem) (plugins : Plugins) (file : Path) :
    (reportOn fs plugins file).results = (resultsFor fs plugins file).value := rfl

theorem resultsFor_of_built {fs : FileSystem} {plugins : Plugins} {file : Path} {p : Processor} {artifact : Artifact}
    (claimed : plugins.processors.claimant (·.supports) file.extension = some p)
    (built : (p.build fs file).value = .ok artifact) :
    (resultsFor fs plugins file).value = (runChecks plugins.checks.toList file.extension artifact).value := by
  unfold resultsFor
  rw [claimed]
  change (p.build fs file >>= _).value = _
  rw [Logged.value_bind, built]

theorem resultsFor_accounted (fs : FileSystem) (plugins : Plugins) (file : Path) :
    Accounted fs plugins file (resultsFor fs plugins file).value := by
  cases claimed : plugins.processors.claimant (·.supports) file.extension with
  | none =>
    unfold resultsFor
    rw [claimed]
    exact .unclaimed claimed
  | some p =>
    cases built : (p.build fs file).value with
    | error e =>
      unfold resultsFor
      rw [claimed]
      change Accounted fs plugins file (p.build fs file >>= _).value
      rw [Logged.value_bind, built]
      exact .unbuilt claimed built ⟨rfl, rfl⟩ rfl
    | ok artifact =>
      rw [resultsFor_of_built claimed built, runChecks_value]
      refine .checked claimed built ?_
      rw [List.forall₂_map_right_iff, List.forall₂_same]
      intro check _
      exact runCheck_adds artifact check

/-- No check runs on a file on which its processor breaks down: the checks play no part. -/
theorem scanFile_of_unbuilt {fs : FileSystem} {plugins : Plugins} {file : Path} {p : Processor} {e : Failure}
    (claimed : plugins.processors.claimant (·.supports) file.extension = some p)
    (broke : (p.build fs file).value = .error e) (checks : Registry Check) :
    scanFile fs { plugins with checks := checks } file = scanFile fs plugins file := by
  have results : resultsFor fs { plugins with checks := checks } file = resultsFor fs plugins file := by
    unfold resultsFor
    rw [claimed]
    change (p.build fs file >>= _) = (p.build fs file >>= _)
    generalize p.build fs file = built at broke
    obtain ⟨value, records⟩ := built
    obtain rfl : value = .error e := broke
    rfl
  unfold scanFile
  rw [results]

end Scan

/-! ## Without breakdowns -/

/-- A processor that does what another does wherever the other does not break down. -/
structure Processor.Mends (calm p : Processor) : Prop where
  supports : calm.supports = p.supports
  build : ∀ fs file artifact, (p.build fs file).value = .ok artifact → (calm.build fs file).value = .ok artifact

/-- A check that does what another does wherever the other does not break down. -/
structure Check.Mends (calm check : Check) : Prop where
  appliesTo : calm.appliesTo = check.appliesTo
  run : ∀ artifact results, (check.run artifact).value = .ok results → (calm.run artifact).value = .ok results

/-- Plugins that do, one by one, what others do wherever those do not break down. -/
structure Plugins.Mends (calm plugins : Plugins) : Prop where
  processors : List.Forall₂ Processor.Mends calm.processors.toList plugins.processors.toList
  checks : List.Forall₂ Check.Mends calm.checks.toList plugins.checks.toList

namespace Scan

/-- Nothing breaks down on a file. -/
def Intact (fs : FileSystem) (plugins : Plugins) (file : Path) : Prop :=
  ∀ p, plugins.processors.claimant (·.supports) file.extension = some p →
    ∃ artifact, (p.build fs file).value = .ok artifact ∧
      ∀ check ∈ plugins.checks.toList, applies check file.extension = true →
        ∃ results, (check.run artifact).value = .ok results

theorem find?_rel {α β : Type} {R : α → β → Prop} {as : List α} {bs : List β} (related : List.Forall₂ R as bs)
    {p : α → Bool} {q : β → Bool} (same : ∀ a b, R a b → p a = q b) :
    Option.Rel R (as.find? p) (bs.find? q) := by
  induction related with
  | nil => exact .none
  | @cons a b as bs first _ ih =>
    rw [List.find?_cons, List.find?_cons, same a b first]
    cases q b with
    | true => exact .some first
    | false => exact ih

theorem claimant_rel {calm plugins : Plugins} (mends : calm.Mends plugins) (extension : String) :
    Option.Rel Processor.Mends (calm.processors.claimant (·.supports) extension)
      (plugins.processors.claimant (·.supports) extension) := by
  unfold Registry.claimant
  apply find?_rel (List.forall₂_reverse_iff.mpr mends.processors)
  intro p q h
  simp only [h.supports]

theorem applies_of_mends {calm check : Check} (mends : calm.Mends check) (extension : String) :
    applies calm extension = applies check extension := by
  unfold applies
  rw [mends.appliesTo]

theorem runCheck_of_ok {artifact : Artifact} {check : Check} {results : List Result}
    (ran : (check.run artifact).value = .ok results) : (runCheck artifact check).value = results := by
  unfold runCheck
  rw [Logged.value_bind, ran]
  rfl

theorem runChecks_of_mends {calm checks : List Check} (mends : List.Forall₂ Check.Mends calm checks)
    {extension : String} {artifact : Artifact}
    (intact : ∀ check ∈ checks, applies check extension = true → ∃ results, (check.run artifact).value = .ok results) :
    (runChecks calm extension artifact).value = (runChecks checks extension artifact).value := by
  rw [runChecks_value, runChecks_value]
  congr 1
  induction mends with
  | nil => rfl
  | @cons calmed check calm checks first _ ih =>
    have rest := ih fun c member => intact c (List.mem_cons_of_mem check member)
    rw [List.filter_cons, List.filter_cons, applies_of_mends first]
    split
    · next runs =>
      obtain ⟨results, ran⟩ := intact check List.mem_cons_self runs
      rw [List.map_cons, List.map_cons, rest, runCheck_of_ok ran, runCheck_of_ok (first.run artifact results ran)]
    · exact rest

theorem resultsFor_of_mends {fs : FileSystem} {calm plugins : Plugins} (mends : calm.Mends plugins) {file : Path}
    (intact : Intact fs plugins file) :
    (resultsFor fs calm file).value = (resultsFor fs plugins file).value := by
  have related := claimant_rel mends file.extension
  cases claimed : plugins.processors.claimant (·.supports) file.extension with
  | none =>
    rw [claimed] at related
    cases calmed : calm.processors.claimant (·.supports) file.extension with
    | none => rw [resultsFor, resultsFor, claimed, calmed]
    | some c =>
      rw [calmed] at related
      cases related
  | some p =>
    rw [claimed] at related
    obtain ⟨artifact, built, ran⟩ := intact p claimed
    cases calmed : calm.processors.claimant (·.supports) file.extension with
    | none =>
      rw [calmed] at related
      cases related
    | some c =>
      rw [calmed] at related
      cases related with
      | some mended =>
        rw [resultsFor_of_built claimed built, resultsFor_of_built calmed (mended.build fs file artifact built)]
        exact runChecks_of_mends mends.checks ran

/-- A file on which nothing breaks down has the report that it would have if nothing broke down anywhere. -/
theorem reportOn_of_mends {fs : FileSystem} {calm plugins : Plugins} (mends : calm.Mends plugins) {file : Path}
    (intact : Intact fs plugins file) : reportOn fs calm file = reportOn fs plugins file := by
  have results := resultsFor_of_mends mends intact
  unfold reportOn scanFile
  rw [Logged.value_bind, Logged.value_bind, results]

/-! ## The report of a scan -/

/-- The report on a file contains what breaks down on the file. -/
structure Contained (fs : FileSystem) (plugins : Plugins) (file : Path) (r : FileReport) : Prop where
  file_eq : r.file = file
  consistent : r.Consistent
  accounted : Accounted fs plugins file r.results
  /-- A file on which its processor breaks down fails, with one result, and no check runs. -/
  unbuilt : ∀ p e, plugins.processors.claimant (·.supports) file.extension = some p →
    (p.build fs file).value = .error e →
      (∃ x, r.results = [x] ∧ x.FailedAs .error) ∧ r.verdict = .fail ∧
        ∀ checks, scanFile fs { plugins with checks := checks } file = scanFile fs plugins file

theorem reportOn_contained (fs : FileSystem) (plugins : Plugins) (file : Path) :
    Contained fs plugins file (reportOn fs plugins file) := by
  have accounted := resultsFor_accounted fs plugins file
  rw [← results_reportOn] at accounted
  have consistent : (reportOn fs plugins file).Consistent := FileReport.consistent_ofResults _ _ _ _
  refine ⟨rfl, consistent, accounted, ?_⟩
  intro p e claimed broke
  have one : ∃ x, (reportOn fs plugins file).results = [x] ∧ x.FailedAs .error := by
    generalize (reportOn fs plugins file).results = results at accounted
    cases accounted with
    | unclaimed nobody =>
      rw [claimed] at nobody
      cases nobody
    | unbuilt _ _ failed => exact ⟨_, rfl, failed⟩
    | checked claimed' built =>
      rw [claimed] at claimed'
      cases claimed'
      rw [broke] at built
      cases built
  obtain ⟨x, single, failed⟩ := one
  refine ⟨⟨x, single, failed⟩, consistent.fail_iff.mpr ⟨x, ?_, failed⟩, scanFile_of_unbuilt claimed broke⟩
  rw [single]
  exact List.mem_cons_self

/-- A scan reports on every file that its inputs stand for, once and in order, whatever breaks down; inputs that exist
always stand for some files. Its steps are the files with their numbers. What breaks down on a file is contained in the
report on that file, and the reports on all other files are what they would be if nothing broke down. -/
theorem breakdowns_contained (fs : FileSystem) (plugins : Plugins) (selection : Selection) (config : Value)
    (inputs : List Path) :
    ((∀ p ∈ inputs, fs.holds p = true) → ∃ files, fs.expand selection inputs = .ok files) ∧
    ∀ files, fs.expand selection inputs = .ok files →
      ∃ (progress : List Progress) (report : Report),
        (run fs plugins selection config inputs).value = .ok (progress, report) ∧
        progress.length = files.length ∧
        (∀ (i : Nat) file, files[i]? = some file → progress[i]? = some ⟨i + 1, files.length, file⟩) ∧
        List.Forall₂ (Contained fs plugins) files report.files ∧
        ∀ calm, calm.Mends plugins →
          ∃ calmReport, (run fs calm selection config inputs).value = .ok (progress, calmReport) ∧
            List.Forall₂ (fun r r' => r.file = r'.file ∧ (Intact fs plugins r.file → r = r')) report.files
              calmReport.files := by
  refine ⟨FileSystem.expand_of_holds selection, ?_⟩
  intro files expanded
  have reported : ∀ plugins, (run fs plugins selection config inputs).value =
      .ok (steps files, .ofFiles inputs config (files.map (reportOn fs plugins))) := by
    intro plugins
    rw [run_value, expanded]
    rfl
  refine ⟨steps files, _, reported plugins, ?_, ?_, ?_, ?_⟩
  · simp [steps]
  · intro i file found
    simp [steps, found]
  · refine List.forall₂_map_right_iff.mpr (List.forall₂_same.mpr ?_)
    intro file _
    exact reportOn_contained fs plugins file
  · intro calm mends
    refine ⟨_, reported calm, ?_⟩
    refine List.forall₂_map_left_iff.mpr (List.forall₂_map_right_iff.mpr (List.forall₂_same.mpr ?_))
    intro file _
    exact ⟨rfl, fun intact => (reportOn_of_mends mends intact).symm⟩

/-- A processor that breaks down on every file with one name. -/
def shakyProcessor : Processor where
  supports := [".py"]
  build _ file :=
    return if file.name = "a.py" then .error ⟨"RuntimeError", "boom"⟩ else .ok ⟨file, ".py", 0, .unreadable .null⟩

/-- A check that always breaks down. -/
def brokenCheck : Check where
  name := "broken"
  appliesTo := ["*"]
  run _ := return .error ⟨"ValueError", "bad"⟩

/-- Plugins that break down on every file. -/
def shakyPlugins : Plugins where
  processors := Registry.empty.register ⟨"shaky", []⟩ shakyProcessor
  checks := Registry.empty.register ⟨"broken", []⟩ brokenCheck

theorem claimant_shakyPlugins :
    shakyPlugins.processors.claimant (·.supports) (Path.extension ⟨"/", ["a.py"]⟩) = some shakyProcessor := by
  have own : (shakyProcessor.supports.map Text.lower).contains (Text.lower (Path.extension ⟨"/", ["a.py"]⟩)) = true := by
    decide +kernel
  exact List.find?_cons_of_pos own

/-- Neither of two files stops the scan: both are reported on, and the first one fails. -/
theorem breakdowns_contained_two :
    ∃ progress report,
      (run (twoFiles [] []) shakyPlugins ⟨[".py"], []⟩ .null ([⟨"", ["a.py"]⟩] ++ [⟨"", ["b.py"]⟩])).value =
        .ok (progress, report) ∧
      progress[0]? = some ⟨1, 2, ⟨"/", ["a.py"]⟩⟩ ∧ progress[1]? = some ⟨2, 2, ⟨"/", ["b.py"]⟩⟩ ∧
      ∃ first second, report.files = [first, second] ∧ first.verdict = .fail ∧ second.file = ⟨"/", ["b.py"]⟩ := by
  have expanded : (twoFiles [] []).expand ⟨[".py"], []⟩ ([⟨"", ["a.py"]⟩] ++ [⟨"", ["b.py"]⟩]) =
      .ok [⟨"/", ["a.py"]⟩, ⟨"/", ["b.py"]⟩] := by
    have front := expand_twoFiles [] [] (.inl rfl)
    have back := expand_twoFiles [] [] (.inr rfl)
    rw [FileSystem.expand_append, front, back]
    · rfl
    · intro fx fy hx hy p member
      rw [front] at hx
      rw [back] at hy
      cases hx
      cases hy
      rw [List.mem_singleton] at member ⊢
      rw [member]
      decide
  obtain ⟨progress, report, done, -, steps, contained, -⟩ :=
    (breakdowns_contained (twoFiles [] []) shakyPlugins ⟨[".py"], []⟩ .null
      ([⟨"", ["a.py"]⟩] ++ [⟨"", ["b.py"]⟩])).2 _ expanded
  refine ⟨progress, report, done, steps 0 _ rfl, steps 1 _ rfl, ?_⟩
  obtain ⟨first, others, ha, rest, files⟩ := List.forall₂_cons_left_iff.mp contained
  obtain ⟨second, none, hb, nobody, rfl⟩ := List.forall₂_cons_left_iff.mp rest
  obtain rfl := List.forall₂_nil_left_iff.mp nobody
  exact ⟨first, second, files, (ha.unbuilt _ _ claimant_shakyPlugins rfl).2.1, hb.file_eq⟩

end Scan

end SpellLint
