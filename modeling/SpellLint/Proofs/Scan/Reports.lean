import SpellLint.Scan

/-! # The reports of a scan

A scan reports on the files that its inputs stand for, one by one. With the standard plugins the report on a file is
told by the settings, its path and what reading it gives.
-/

set_option autoImplicit false

namespace SpellLint

open SpellLint.Text

instance : LawfulMonad Logged := LawfulMonad.mk' Logged
  (by intro α x; simp [Functor.map])
  (by intro α β a f; simp [bind, pure])
  (by intro α β γ x f g; simp [bind, List.append_assoc])

theorem Logged.value_mapM {α β : Type} (f : α → Logged β) (as : List α) :
    (as.mapM f).value = as.map fun a => (f a).value := by
  induction as with
  | nil => rfl
  | cons a as ih =>
    rw [List.mapM_cons, Logged.value_bind, Logged.value_bind, Logged.value_pure, ih]
    rfl

namespace Scan

/-! ## One report for every file -/

/-- The report on a file. -/
def reportOn (fs : FileSystem) (plugins : Plugins) (file : Path) : FileReport := (scanFile fs plugins file).value

/-- A scan reports on its files in turn. -/
theorem run_value (fs : FileSystem) (plugins : Plugins) (selection : Selection) (config : Value)
    (inputs : List Path) :
    (run fs plugins selection config inputs).value = (fs.expand selection inputs).map fun files =>
      (steps files, .ofFiles inputs config (files.map (reportOn fs plugins))) := by
  unfold run
  cases fs.expand selection inputs with
  | error e => rfl
  | ok files =>
    have reports := Logged.value_mapM (scanFile fs plugins) files
    simp only [Logged.value_bind, Logged.value_pure, reports]
    rfl

/-! ## Reports with the standard plugins -/

/-- The number of bytes that were read. -/
def sizeOfContent : Except FileError (List UInt8) → Nat
  | .ok bytes => bytes.length
  | .error _ => 0

/-- What checks see of a file with these bytes. -/
def artifactOf (file : Path) (bytes : List UInt8) : Artifact :=
  Source.SourceFile.artifact ⟨file, bytes.length, Source.SourceFile.sourceOf file bytes⟩

/-- The results for a file by what reading it gives: it may have no processor, be unreadable, or be checked. -/
def resultsFrom (settings : Settings) (file : Path) (content : Except FileError (List UInt8)) : List Result :=
  if (Source.processor.supports.map lower).contains (lower file.extension) then
    match content with
    | .error e => [unbuilt file (e.failure file)]
    | .ok bytes => (SpellingCheck.run settings (artifactOf file bytes)).value
  else [unsupported file file.extension]

/-- The report on a file by what reading it gives. -/
def reportFrom (settings : Settings) (file : Path) (content : Except FileError (List UInt8)) : FileReport :=
  .ofResults file file.extension (sizeOfContent content) (resultsFrom settings file content)

theorem sizeOf_eq (fs : FileSystem) (file : Path) : sizeOf fs file = sizeOfContent (fs.read file) := by
  unfold sizeOf FileSystem.size FileSystem.read
  cases fs.entry file with
  | error e => rfl
  | ok e => cases e <;> rfl

theorem claimant_standard (settings : Settings) (extension : String) :
    (Plugins.standard settings).processors.claimant (·.supports) extension =
      if (Source.processor.supports.map lower).contains (lower extension) then some Source.processor
      else none := by
  change [Source.processor].find? _ = _
  rw [List.find?_cons]
  split
  · next claimed => rw [if_pos claimed]
  · next unclaimed =>
    rw [if_neg (by rw [unclaimed]; exact Bool.false_ne_true)]
    rfl

theorem lower_star : lower "*" = "*" := by decide +kernel

/-- The spelling check applies to every extension. -/
theorem applies_spellingCheck (settings : Settings) (extension : String) :
    applies (spellingCheck settings) extension = true := by
  have targets : (spellingCheck settings).appliesTo.map lower = ["*"] := congrArg (fun s => [s]) lower_star
  unfold applies
  rw [targets]
  rfl

/-- The spelling check is the only one, and it does not break down. -/
theorem runChecks_standard (settings : Settings) (extension : String) (artifact : Artifact) :
    (runChecks (Plugins.standard settings).checks.toList extension artifact).value =
      (SpellingCheck.run settings artifact).value := by
  have one : (Plugins.standard settings).checks.toList = [spellingCheck settings] := rfl
  have own : (runCheck artifact (spellingCheck settings)).value = (SpellingCheck.run settings artifact).value := rfl
  have all : [spellingCheck settings].filter (applies · extension) = [spellingCheck settings] :=
    List.filter_cons_of_pos (applies_spellingCheck settings extension)
  unfold runChecks
  rw [one, all, Logged.value_bind, Logged.value_pure, Logged.value_mapM, List.map_singleton, own,
    List.flatten_singleton]

theorem build_value (fs : FileSystem) (file : Path) :
    (Source.processor.build fs file).value =
      match fs.read file with
      | .error e => .error (e.failure file)
      | .ok bytes => .ok (artifactOf file bytes) := by
  change ((Source.SourceFile.read fs file).value.map Source.SourceFile.artifact) = _
  unfold Source.SourceFile.read
  cases fs.read file <;> rfl

theorem resultsFor_standard (fs : FileSystem) (settings : Settings) (file : Path) :
    (resultsFor fs (.standard settings) file).value = resultsFrom settings file (fs.read file) := by
  unfold resultsFor resultsFrom
  rw [claimant_standard]
  by_cases claimed : (Source.processor.supports.map lower).contains (lower file.extension)
  · rw [if_pos claimed, if_pos claimed]
    change (Source.processor.build fs file >>= _).value = _
    rw [Logged.value_bind, build_value]
    cases fs.read file with
    | error e => rfl
    | ok bytes => exact runChecks_standard settings file.extension (artifactOf file bytes)
  · rw [if_neg claimed, if_neg claimed]
    rfl

/-- With the standard plugins a report is told by the settings, the path and what reading the path gives. -/
theorem reportOn_standard (fs : FileSystem) (settings : Settings) (file : Path) :
    reportOn fs (.standard settings) file = reportFrom settings file (fs.read file) := by
  have results := resultsFor_standard fs settings file
  unfold reportOn scanFile reportFrom
  rw [Logged.value_bind, Logged.value_pure, results, sizeOf_eq]

end Scan

end SpellLint
