import SpellLint.Proofs.Files.SameFile
import SpellLint.Proofs.Page.Lists
import SpellLint.Proofs.Scan.Reports
import SpellLint.Proofs.WordList.Loading

/-! # How many files there are

The page counts the files of a folder for the sidebar and again before it scans the folder, and the scan counts the
steps that it takes and the reports that it makes. All these numbers are the same: a search finds every file once, and a
folder alone stands for the files that a search of it finds, in the same order (`expand_folder`).
-/

set_option autoImplicit false

namespace SpellLint

open SpellLint.Text FileSystem

/-! ## A folder and its files -/

namespace FileSystem

variable {fs : FileSystem}

theorem distinct_of_nodup {paths : List Path} (h : paths.Nodup) : distinct paths = paths := by
  induction paths with
  | nil => rfl
  | cons p paths ih =>
    obtain ⟨new, rest⟩ := List.nodup_cons.mp h
    have apart : ∀ q ∈ [p], q ∉ paths := List.forall_mem_singleton.mpr new
    calc distinct ([p] ++ paths) = distinct [p] ++ distinct paths := distinct_append apart
      _ = p :: paths := by rw [ih rest]; rfl

/-- A folder alone stands for the files that a search of it finds: each of them once, in the same order. -/
theorem Tidy.expand_folder (tidy : fs.Tidy) (s : Selection) {folder : Path} (h : fs.isFolder folder = true) :
    ∃ files, files.Nodup ∧ fs.search s folder = .ok files ∧ fs.expand s [folder] = .ok files := by
  obtain ⟨place, entries, -, reached, found, same⟩ := tidy.filesOf_of_isFolder s h
  have nodup : (fs.filesUnder s (pathTo place) (.folder entries)).Nodup := by
    refine (tidy.pairwise_filesUnder reached).imp ?_
    rintro p q before rfl
    exact before.irrefl
  refine ⟨_, nodup, found, ?_⟩
  rw [expand_eq, List.mapM_cons, same, found]
  change Except.ok (distinct [fs.filesUnder s (pathTo place) (.folder entries)].flatten) = _
  rw [List.flatten_singleton, distinct_of_nodup nodup]

end FileSystem

namespace Scan

theorem length_steps (files : List Path) : (steps files).length = files.length := by
  rw [steps, List.length_map, List.length_zipIdx]

theorem total_of_mem_steps {files : List Path} {step : Progress} (member : step ∈ steps files) :
    step.total = files.length := by
  obtain ⟨entry, -, rfl⟩ := List.mem_map.mp member
  rfl

end Scan

namespace Page

variable {answers : Answers}

/-! ## What is shown of the numbers -/

/-- The number of files of a folder in the sidebar. -/
def countElement (folder : Path) (count : Nat) : Element :=
  let shown := if folder.name = "" then folder.toString else folder.name
  .caption true s!"Python files under {shown}: {count}"

/-- The number of all files before a scan. -/
def totalElements (total : Nat) : List Element :=
  if total = 0 then [.advance 0, .statusNotice "No files to scan."]
  else [.statusNotice s!"Discovered {total} file(s). Starting scan…"]

/-- A step of a scan. -/
def stepElements (step : Progress) : List Element :=
  (if 0 < step.total then [.advance (percentOf step.index step.total)] else []) ++
    [.statusText s!"[{step.index}/{step.total}] {step.file}"]

theorem yields_showCount (folder : Path) (count : Nat) :
    Yields answers (showCount folder count) () [countElement folder count] [] := yields_put _

theorem yields_showTotal (total : Nat) : Yields answers (showTotal total) () (totalElements total) [] := by
  unfold showTotal totalElements
  cases total with
  | zero => exact (yields_put _).bind (yields_put _)
  | succ n =>
    rw [if_neg (by omega), if_neg (Nat.succ_ne_zero n)]
    exact yields_put _

theorem yields_showStep (step : Progress) :
    Yields answers (showStep step.index step.total step.file) () (stepElements step) [] := by
  unfold showStep stepElements
  by_cases some : 0 < step.total
  · have some' : (0 : Int) < step.total := by omega
    rw [if_pos some', if_pos some]
    exact (yields_put _).bind (yields_put _)
  · have none' : ¬ (0 : Int) < step.total := by omega
    rw [if_neg none', if_neg some]
    exact yields_put _

theorem yields_showSteps (steps : List Progress) :
    Yields answers (showSteps steps) () (steps.flatMap stepElements) [] := by
  induction steps with
  | nil => exact yields_pure ()
  | cons step steps ih => exact (yields_showStep step).bind ih

/-! ## What is asked for -/

/-- The folder that has been entered; none if the text is blank. -/
def folderEntered (answers : Answers) : Option String :=
  let text := strip ((answers.lookup "Folder path to scan").getD (.text "")).shown
  if text = "" then none else some text

/-- Whether the button has been pressed. -/
def startPressed (answers : Answers) : Bool := ((answers.lookup "Scan folder").getD (.bool false)).holds

/-- What the page starts with. -/
def openingElements : List Element :=
  [.pageSettings, .title "lexicheck: Source Spelling",
    .caption false "Spell-check identifiers and docstrings in Python projects",
    .textInput none "Folder path to scan" none]

theorem yields_askFolder :
    Yields answers askFolder (folderEntered answers) [.textInput none "Folder path to scan" none] [] :=
  (yields_askText _ _ _).bind (yields_pure _)

/-! ## A scan on the page -/

section

variable {h : Host} {c : Config} {folder : Path} {files : List Path}

theorem yields_countFiles (found : h.files.search (.of c.extensions c.ignored) folder = .ok files) :
    Yields answers (countFiles h c folder) files.length [] [] :=
  (yields_require _ found).bind (yields_pure _)

/-- The report of a folder's files. -/
def reportOf (h : Host) (config : Value) (d : Dictionary) (folder : Path) (files : List Path) : Report :=
  let settings := (h.settings.withDictionary (some d)).apply config
  .ofFiles [folder] config (files.map (Scan.reportOn h.files (.standard settings)))

theorem yields_scan (answers : Answers) (config : Value) (d : Dictionary)
    (found : h.files.search (.of c.extensions c.ignored) folder = .ok files)
    (expanded : h.files.expand (.of c.extensions c.ignored) [folder] = .ok files) :
    ∃ records, Yields answers (scan h c config d folder) (reportOf h config d folder files)
      ([.progressBar 0, .statusLine] ++ totalElements files.length ++ (Scan.steps files).flatMap stepElements)
      records := by
  let settings := (h.settings.withDictionary (some d)).apply config
  let scanned := Scan.run h.files (.standard settings) (.of c.extensions c.ignored) config [folder]
  have value : scanned.value = .ok (Scan.steps files, reportOf h config d folder files) := by
    rw [Scan.run_value, expanded]
    rfl
  have start : Yields answers startProgress () [.progressBar 0, .statusLine] [] := (yields_put _).bind (yields_put _)
  have done : Yields answers (scan h c config d folder) (reportOf h config d folder files)
      ([.progressBar 0, .statusLine] ++ ([] ++ (totalElements files.length ++ ([] ++ ([] ++
        ((Scan.steps files).flatMap stepElements ++ []))))))
      ([] ++ ([] ++ ([] ++ (scanned.records ++ ([] ++ ([] ++ [])))))) := by
    refine start.bind ((yields_countFiles found).bind ((yields_showTotal _).bind ((yields_logged scanned).bind ?_)))
    exact (yields_require _ value).bind ((yields_showSteps _).bind (yields_pure _))
  simp only [List.nil_append, List.append_nil, ← List.append_assoc] at done
  exact ⟨scanned.records, done⟩

/-- Up to the button: the page goes on if the button has been pressed, with the configuration that has been chosen. -/
theorem goesOn_content {base : Config} {text : String} {config : Value} (entered : folderEntered answers = some text)
    (isFolder : h.files.isFolder (.ofString text) = true) (pressed : startPressed answers = true)
    (chosen : config = chosenOptions answers base.toValue ("\n".intercalate base.wordLists))
    (found : h.files.search (.of (Config.ofValue config).extensions (Config.ofValue config).ignored) (.ofString text) =
      .ok files) :
    GoesOn answers (content h base) (serve h config (.ofString text))
      (openingElements ++ optionElements base.toValue ("\n".intercalate base.wordLists) ++
        [countElement (.ofString text) files.length, .button "Scan folder"]) [] := by
  have options := yields_askOptions answers (proposedLists_toValue base)
  rw [← chosen] at options
  have picked : ((folderEntered answers).map Path.ofString).filter h.files.isFolder = some (.ofString text) := by
    rw [entered, Option.map_some, Option.filter_some, if_pos isFolder]
  have opening : GoesOn answers (content h base) _ openingElements [] :=
    (yields_put _).goesOn.trans ((yields_put _).goesOn.trans ((yields_put _).goesOn.trans yields_askFolder.goesOn))
  have started : GoesOn answers (do if (← askStart).holds then serve h config (.ofString text))
      (serve h config (.ofString text)) [.button "Scan folder"] [] := by
    intro s
    refine (bind_eq_of_ok (yields_askButton "Scan folder" s)).trans ?_
    exact congrFun (congrFun (if_pos pressed) answers) _
  refine (opening.trans options.goesOn).trans ?_
  rw [picked, entered]
  exact (yields_countFiles found).goesOn.trans ((yields_showCount _ _).goesOn.trans started)

/-- From the button to the report. -/
theorem goesOn_serve (answers : Answers) {config : Value} {d : Dictionary}
    (loaded : (WordList.load h.files h.builtins (WordList.sourcesOf (Config.ofValue config) [])).value = .ok d)
    (found : h.files.search (.of (Config.ofValue config).extensions (Config.ofValue config).ignored) folder = .ok files)
    (expanded : h.files.expand (.of (Config.ofValue config).extensions (Config.ofValue config).ignored) [folder] =
      .ok files) :
    ∃ records, GoesOn answers (serve h config folder) (showReport folder (reportOf h config d folder files))
      ([.progressBar 0, .statusLine] ++ totalElements files.length ++ (Scan.steps files).flatMap stepElements)
      records := by
  obtain ⟨records, scanned⟩ := yields_scan answers config d found expanded
  let load := WordList.load h.files h.builtins (WordList.sourcesOf (Config.ofValue config) [])
  refine ⟨load.records ++ records, (yields_logged load).goesOn.trans ?_⟩
  rw [loaded]
  exact scanned.goesOn

end

/-- Whatever is entered, the numbers of files that a page shows and works with are one number. If a folder has been
entered, the page counts the files that a search of it finds for the sidebar. If the button has been pressed and the
dictionary can be loaded, it counts them again, shows as many steps as there are files, each with that number, and then
a report with that number of files. -/
theorem counts_agree {h : Host} (tidy : h.files.Tidy) (base : Config) {answers : Answers} {text : String}
    (entered : folderEntered answers = some text) (isFolder : h.files.isFolder (.ofString text) = true)
    (pressed : startPressed answers = true) :
    let lists := "\n".intercalate base.wordLists
    let config := chosenOptions answers base.toValue lists
    let c := Config.ofValue config
    let folder := Path.ofString text
    ∃ files, files.Nodup ∧ h.files.search (.of c.extensions c.ignored) folder = .ok files ∧
      h.files.expand (.of c.extensions c.ignored) [folder] = .ok files ∧
      ∀ d, (WordList.load h.files h.builtins (WordList.sourcesOf c [])).value = .ok d →
        ∃ report records,
          (Scan.run h.files (.standard ((h.settings.withDictionary (some d)).apply config))
            (.of c.extensions c.ignored) config [folder]).value = .ok (Scan.steps files, report) ∧
          (Scan.steps files).length = files.length ∧ (∀ step ∈ Scan.steps files, step.total = files.length) ∧
          report.totals.files = files.length ∧
          shown (content h base) answers = showReport folder report answers
            ⟨openingElements ++ optionElements base.toValue lists ++
              [countElement folder files.length, .button "Scan folder"] ++ ([.progressBar 0, .statusLine] ++
              totalElements files.length ++ (Scan.steps files).flatMap stepElements), records⟩ := by
  intro lists config c folder
  obtain ⟨files, nodup, found, expanded⟩ := tidy.expand_folder (.of c.extensions c.ignored) isFolder
  refine ⟨files, nodup, found, expanded, fun d loaded => ?_⟩
  obtain ⟨records, served⟩ := goesOn_serve answers loaded found expanded
  have whole := (goesOn_content entered isFolder pressed rfl found).trans served
  refine ⟨reportOf h config d folder files, records, ?_, Scan.length_steps files, fun _ => Scan.total_of_mem_steps,
    List.length_map _, ?_⟩
  · rw [Scan.run_value, expanded]
    rfl
  · exact whole ⟨[], []⟩

/-- A user who has the folder of a package scanned. -/
def packageAnswers : Answers := [("Folder path to scan", .text " /pkg "), ("Scan folder", .bool true)]

/-- The number of files in the report of the package is the number in the sidebar. -/
theorem counts_agree_package :
    packageTree.Tidy ∧ folderEntered packageAnswers = some "/pkg" ∧ packageTree.isFolder (.ofString "/pkg") = true ∧
      startPressed packageAnswers = true ∧
      ∃ report t, shown (content ⟨packageTree, [], .initial, fun _ => some []⟩ (.load [])) packageAnswers =
          showReport (.ofString "/pkg") report packageAnswers t ∧
        countElement (.ofString "/pkg") report.totals.files ∈ t.elements := by
  have entered : folderEntered packageAnswers = some "/pkg" := by decide +kernel
  have isFolder : packageTree.isFolder (.ofString "/pkg") = true := by cbv
  have pressed : startPressed packageAnswers = true := by decide +kernel
  obtain ⟨files, -, -, -, served⟩ := counts_agree (h := ⟨packageTree, [], .initial, fun _ => some []⟩)
    tidy_packageTree (.load []) entered isFolder pressed
  have sources : WordList.sourcesOf (.ofValue (chosenOptions packageAnswers (Config.load []).toValue
      ("\n".intercalate (Config.load []).wordLists))) [] = [.builtin "en"] := by
    decide +kernel
  obtain ⟨d, loaded⟩ : ∃ d, (WordList.load packageTree (fun _ => some []) [.builtin "en"]).value = .ok d :=
    WordList.exists_load_iff.mpr (List.forall_mem_singleton.mpr ⟨[], rfl⟩)
  obtain ⟨report, records, -, -, -, count, same⟩ := served d (sources ▸ loaded)
  refine ⟨tidy_packageTree, entered, isFolder, pressed, report, _, same, ?_⟩
  simp [count]

end Page

end SpellLint
