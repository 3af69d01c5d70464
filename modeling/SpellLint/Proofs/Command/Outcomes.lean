import SpellLint.Command.Run
import SpellLint.Proofs.Report.Outputs
import SpellLint.Proofs.WordList.Loading

/-! # How a run ends

A run whose arguments make sense ends in one of three ways: it is refused because a path is missing (`Refused`), it does
not start because the dictionary cannot be loaded (`Unloaded`), or it scans and tells by its status whether there are
misspellings (`Scanned`). The first way is decided before a dictionary is loaded, the second before a file is read, and
no way depends on what an earlier run has set.
-/

set_option autoImplicit false

namespace SpellLint

/-- Files that can be written one after the other, whatever their content. -/
def FileSystem.Writable (fs : FileSystem) : List Path → Prop
  | [] => True
  | p :: rest => ∀ content, ∃ written, fs.write p content = .ok written ∧ written.Writable rest

/-- A dictionary and a configuration leave nothing of what was set before. -/
theorem Settings.apply_withDictionary (s : Settings) (d : Dictionary) (c : Config) :
    (s.withDictionary (some d)).apply c.toValue = ⟨some d, c.policy⟩ := rfl

/-- Every named level is a threshold. -/
theorem Log.exists_threshold {level : String} (named : level ∈ levelNumbers.map (·.1)) :
    ∃ n, threshold level = .ok n := by
  have all : ∀ entry ∈ levelNumbers, threshold entry.1 = .ok entry.2 := by decide +kernel
  obtain ⟨entry, member, rfl⟩ := List.mem_map.mp named
  exact ⟨entry.2, all entry member⟩

namespace Command

/-! ## What a request names -/

/-- The configuration of a request on a host. -/
def Request.configOn (r : Request) (h : Host) : Config := r.configure (Config.load h.environment)

/-- The sources of the dictionary of a request on a host. -/
def Request.sourcesOn (r : Request) (h : Host) : List WordList.Source :=
  WordList.sourcesOf (r.configOn h) (r.wordLists.map .ofString)

/-- The files that a request asks to write. -/
def Request.targets (r : Request) : List Path := r.json.toList ++ r.csv.toList ++ r.filesCsv.toList

theorem Request.map_tables (r : Request) (stamp : Stamp) (report : Report) :
    (r.tables stamp report).map (·.1) = r.targets := by
  unfold tables targets
  cases r.json <;> cases r.csv <;> cases r.filesCsv <;> rfl

theorem Request.mem_tables {r : Request} {stamp : Stamp} {report : Report} {text : String}
    (table : report.misspellingsTable = .ok text) : ∀ t ∈ r.tables stamp report, ∃ text, t.2 = .ok text := by
  unfold tables
  cases r.json <;> cases r.csv <;> cases r.filesCsv <;> simp [table]

/-! ## Writing -/

theorem writeText_value {fs written : FileSystem} {p : Path} {text : String}
    (wrote : fs.write p text.toUTF8.toList = .ok written) : (writeText fs p text).value = .ok written := by
  unfold writeText
  rw [wrote]
  rfl

theorem writeTexts_eq_ok {fs : FileSystem} {tables : List (Path × Except Failure String)}
    (writable : fs.Writable (tables.map (·.1))) (texts : ∀ t ∈ tables, ∃ text, t.2 = .ok text) :
    ∃ files, (writeTexts fs tables).value = .ok files := by
  induction tables generalizing fs with
  | nil => exact ⟨fs, rfl⟩
  | cons t rest ih =>
    obtain ⟨p, content⟩ := t
    obtain ⟨text, rfl⟩ : ∃ text, content = .ok text := texts _ List.mem_cons_self
    obtain ⟨written, wrote, more⟩ := writable text.toUTF8.toList
    obtain ⟨files, others⟩ := ih more fun u member => texts u (List.mem_cons_of_mem _ member)
    refine ⟨files, ?_⟩
    rw [writeTexts, Logged.value_bind, writeText_value wrote]
    exact others

/-! ## The stages of a run -/

section

variable {h : Host} {stamp : Stamp} {arguments : List String} {r : Request}

theorem run_eq_execute (parsed : request (options (Config.load h.environment).toValue) arguments = .ok r) :
    run h stamp arguments = execute h stamp (Config.load h.environment) r := by
  unfold run
  dsimp only
  rw [parsed]

theorem execute_of_missing {environment : Config} (missing : ∃ p ∈ r.paths, h.files.holds p = false) :
    execute h stamp environment r =
      .ok (.refused h ("no such file or directory: " ++
        ", ".intercalate ((r.paths.filter (!h.files.holds ·)).map Path.toString))) := by
  unfold execute
  split
  · next none =>
    obtain ⟨p, member, gone⟩ := missing
    have found : p ∈ r.paths.filter (!h.files.holds ·) := List.mem_filter.mpr ⟨member, by simp [gone]⟩
    rw [none] at found
    cases found
  · rfl

theorem execute_eq_serve {level : Nat} (present : ∀ p ∈ r.paths, h.files.holds p = true)
    (named : Log.threshold (r.configOn h).logLevel = .ok level) :
    execute h stamp (Config.load h.environment) r = serve h r stamp (r.configOn h) level := by
  unfold Request.configOn at named ⊢
  have none : r.paths.filter (!h.files.holds ·) = [] := by
    rw [List.filter_eq_nil_iff]
    intro p member
    rw [present p member]
    decide
  unfold execute
  rw [none]
  dsimp only
  rw [named]

theorem serve_of_unloaded {c : Config} {level : Nat} {e : LoadError} {records : List Log.Record}
    (failed : WordList.load h.files h.builtins (WordList.sourcesOf c (r.wordLists.map .ofString)) =
      ⟨.error e, records⟩) :
    serve h r stamp c level = .ok ⟨statusUnloaded, "", "",
      Log.passing level (records ++ [⟨.error, name, s!"failed to start misspelling check: {e.message}"⟩]),
      h.files, h.settings⟩ := by
  unfold serve
  rw [failed]

theorem check_value {c : Config} {settings : Settings} {progress : List Progress} {report : Report} {files : FileSystem}
    (scanned : (Scan.run h.files (.standard settings) (.of c.extensions c.ignored) (r.snapshot c) r.paths).value =
      .ok (progress, report))
    (written : (writeTexts h.files (r.tables stamp report)).value = .ok files) :
    (check h r stamp c settings).value = .ok (report.listing.value, report.hadMistakes, files) := by
  unfold check
  rw [Logged.value_bind, scanned]
  change (report.listing >>= _).value = _
  rw [Logged.value_bind, Logged.value_bind, written]
  rfl

theorem serve_of_loaded {c : Config} {level : Nat} {d : Dictionary} {records : List Log.Record}
    {progress : List Progress} {report : Report} {files : FileSystem}
    (loaded : WordList.load h.files h.builtins (WordList.sourcesOf c (r.wordLists.map .ofString)) = ⟨.ok d, records⟩)
    (scanned : (Scan.run h.files (.standard ⟨some d, c.policy⟩) (.of c.extensions c.ignored) (r.snapshot c)
      r.paths).value = .ok (progress, report))
    (written : (writeTexts h.files (r.tables stamp report)).value = .ok files) :
    serve h r stamp c level = .ok ⟨if report.hadMistakes then statusMistakes else statusClean, report.listing.value, "",
      Log.passing level (records ++ (check h r stamp c ⟨some d, c.policy⟩).records), files, ⟨some d, c.policy⟩⟩ := by
  have checked := check_value scanned written
  unfold serve
  rw [loaded]
  dsimp only
  rw [Settings.apply_withDictionary, checked]
  rfl

end

/-! ## The three ways -/

/-- A run is refused for a path that is missing. -/
structure Refused (h : Host) (stamp : Stamp) (arguments : List String) (r : Request) (o : Outcome) : Prop where
  ends : run h stamp arguments = .ok o
  status : o.status = 2
  output : o.output = ""
  errors : o.errors = refusal ("no such file or directory: " ++
    ", ".intercalate ((r.paths.filter (!h.files.holds ·)).map Path.toString))
  records : o.records = []
  files : o.files = h.files
  settings : o.settings = h.settings
  /-- It only asks which paths exist: no word list is read. -/
  blind : ∀ h' : Host, h'.environment = h.environment → (∀ p ∈ r.paths, h'.files.holds p = h.files.holds p) →
    run h' stamp arguments = .ok { o with files := h'.files, settings := h'.settings }

/-- A run does not start because a source of its dictionary cannot be read. -/
structure Unloaded (h : Host) (stamp : Stamp) (arguments : List String) (r : Request) (o : Outcome) : Prop where
  ends : run h stamp arguments = .ok o
  status : o.status = 10
  output : o.output = ""
  files : o.files = h.files
  settings : o.settings = h.settings
  /-- It only asks which paths exist and what the sources of the dictionary hold: no file is checked. -/
  blind : ∀ h' : Host, h'.environment = h.environment → (∀ p ∈ r.paths, h'.files.holds p = h.files.holds p) →
    (∀ s ∈ r.sourcesOn h,
      WordList.readSource h'.files h'.builtins s = WordList.readSource h.files h.builtins s) →
    run h' stamp arguments = .ok { o with files := h'.files, settings := h'.settings }

/-- A run scans with the dictionary that it has loaded, and makes that dictionary and its policy the settings. -/
structure Scanned (h : Host) (stamp : Stamp) (arguments : List String) (r : Request) (d : Dictionary) (report : Report)
    (o : Outcome) : Prop where
  ends : run h stamp arguments = .ok o
  loaded : (WordList.load h.files h.builtins (r.sourcesOn h)).value = .ok d
  settings : o.settings = ⟨some d, (r.configOn h).policy⟩
  scanned : ∃ progress,
    (Scan.run h.files (.standard o.settings)
      (.of (r.configOn h).extensions (r.configOn h).ignored)
      (r.snapshot (r.configOn h)) r.paths).value = .ok (progress, report)
  output : o.output = report.listing.value
  written : (writeTexts h.files (r.tables stamp report)).value = .ok o.files
  mistakes : o.status = 1 ↔ ∃ x ∈ report.results, x.isMisspelling = true
  clean : o.status = 0 ↔ ∀ x ∈ report.results, x.isMisspelling = false
  /-- What an earlier run has set does not matter. -/
  fresh : ∀ leftover : Settings, run { h with settings := leftover } stamp arguments = .ok o

variable (h : Host) (stamp : Stamp) {arguments : List String} {r : Request}

theorem refused_of_missing (parsed : request (options (Config.load h.environment).toValue) arguments = .ok r)
    (missing : ∃ p ∈ r.paths, h.files.holds p = false) : ∃ o, Refused h stamp arguments r o := by
  refine ⟨_, (run_eq_execute parsed).trans (execute_of_missing missing), rfl, rfl, rfl, rfl, rfl, rfl, ?_⟩
  intro h' environment exist
  have parsed' : request (options (Config.load h'.environment).toValue) arguments = .ok r := by
    rw [environment]
    exact parsed
  have missing' : ∃ p ∈ r.paths, h'.files.holds p = false := by
    obtain ⟨p, member, gone⟩ := missing
    exact ⟨p, member, (exist p member).trans gone⟩
  have same : r.paths.filter (!h'.files.holds ·) = r.paths.filter (!h.files.holds ·) :=
    List.filter_congr fun p member => by rw [exist p member]
  rw [run_eq_execute parsed', execute_of_missing missing', same]
  rfl

theorem unloaded_of_unreadable (parsed : request (options (Config.load h.environment).toValue) arguments = .ok r)
    (named : (r.configOn h).logLevel ∈ Log.levelNumbers.map (·.1))
    (present : ∀ p ∈ r.paths, h.files.holds p = true)
    (unreadable : ∃ s ∈ r.sourcesOn h, ¬ WordList.Readable h.files h.builtins s) :
    ∃ o, Unloaded h stamp arguments r o := by
  obtain ⟨level, named⟩ := Log.exists_threshold named
  cases failed : WordList.load h.files h.builtins (r.sourcesOn h) with | mk value records
  cases value with
  | ok d =>
    obtain ⟨s, member, unreadable⟩ := unreadable
    exact absurd (WordList.exists_load_iff.mp ⟨d, congrArg Logged.value failed⟩ s member) unreadable
  | error e =>
    refine ⟨_, (run_eq_execute parsed).trans ((execute_eq_serve present named).trans (serve_of_unloaded failed)), rfl,
      rfl, rfl, rfl, ?_⟩
    intro h' environment exist same
    have parsed' : request (options (Config.load h'.environment).toValue) arguments = .ok r := by
      rw [environment]
      exact parsed
    have present' : ∀ p ∈ r.paths, h'.files.holds p = true :=
      fun p member => (exist p member).trans (present p member)
    have config : r.configOn h' = r.configOn h := by
      unfold Request.configOn
      rw [environment]
    have named' : Log.threshold (r.configOn h').logLevel = .ok level := by
      rw [config]
      exact named
    rw [run_eq_execute parsed', execute_eq_serve present' named', config,
      serve_of_unloaded ((WordList.load_congr same).trans failed)]

theorem exists_scan_of_present {fs : FileSystem} {paths : List Path} (present : ∀ p ∈ paths, fs.holds p = true)
    (plugins : Plugins) (selection : Selection) (config : Value) :
    ∃ progress report, (Scan.run fs plugins selection config paths).value = .ok (progress, report) := by
  obtain ⟨files, expanded⟩ := FileSystem.expand_of_holds selection present
  rw [Scan.run_value, expanded]
  exact ⟨_, _, rfl⟩

theorem status_iff (mistakes : Bool) :
    ((if mistakes then statusMistakes else statusClean) = 1 ↔ mistakes = true) ∧
      ((if mistakes then statusMistakes else statusClean) = 0 ↔ mistakes = false) := by
  cases mistakes <;> decide

theorem mistakes_iff_of_shows {report : Report} (shows : report.Shows stamp report.misspelled) :
    report.hadMistakes = true ↔ ∃ x ∈ report.results, x.isMisspelling = true := by
  rw [shows.mistakes_iff, List.length_pos_iff_exists_mem]
  simp only [Report.misspelled, List.mem_filter]

theorem scanned_of_readable (parsed : request (options (Config.load h.environment).toValue) arguments = .ok r)
    (named : (r.configOn h).logLevel ∈ Log.levelNumbers.map (·.1))
    (writable : h.files.Writable r.targets) (present : ∀ p ∈ r.paths, h.files.holds p = true)
    (readable : ∀ s ∈ r.sourcesOn h, WordList.Readable h.files h.builtins s) :
    ∃ o d report, Scanned h stamp arguments r d report o := by
  let c := r.configOn h
  obtain ⟨level, named⟩ := Log.exists_threshold named
  obtain ⟨d, value⟩ := WordList.exists_load_iff.mpr readable
  cases loaded : WordList.load h.files h.builtins (r.sourcesOn h) with | mk _ records
  rw [loaded] at value
  subst value
  obtain ⟨progress, report, scanned⟩ := exists_scan_of_present present (.standard ⟨some d, c.policy⟩)
    (.of c.extensions c.ignored) (r.snapshot c)
  have shows := Report.shows_standard scanned stamp
  have mistakes := mistakes_iff_of_shows stamp shows
  obtain ⟨rows, table, -⟩ := shows.table
  obtain ⟨left, written⟩ : ∃ left, (writeTexts h.files (r.tables stamp report)).value = .ok left := by
    refine writeTexts_eq_ok ?_ (Request.mem_tables table)
    rw [Request.map_tables]
    exact writable
  have served : ∀ leftover : Settings, run { h with settings := leftover } stamp arguments = .ok
      ⟨if report.hadMistakes then statusMistakes else statusClean, report.listing.value, "",
        Log.passing level (records ++ (check h r stamp c ⟨some d, c.policy⟩).records), left, ⟨some d, c.policy⟩⟩ := by
    intro leftover
    let h' : Host := { h with settings := leftover }
    calc run h' stamp arguments = execute h' stamp (Config.load h.environment) r := run_eq_execute parsed
      _ = serve h' r stamp c level := execute_eq_serve present named
      _ = _ := serve_of_loaded loaded scanned written
  have clean : report.hadMistakes = false ↔ ∀ x ∈ report.results, x.isMisspelling = false := by
    rw [← Bool.not_eq_true, mistakes]
    simp
  exact ⟨_, d, report, served h.settings, congrArg Logged.value loaded, rfl, ⟨progress, scanned⟩, rfl,
    written, (status_iff _).1.trans mistakes, (status_iff _).2.trans clean, served⟩

/-- A run whose arguments make sense is refused if a path is missing. Otherwise it does not start if a source of its
dictionary cannot be read. Otherwise it scans, and its status tells whether there are misspellings, whatever else went
wrong and whatever was set before. -/
theorem run_outcomes (parsed : request (options (Config.load h.environment).toValue) arguments = .ok r)
    (named : (r.configOn h).logLevel ∈ Log.levelNumbers.map (·.1))
    (writable : h.files.Writable r.targets) :
    ((∃ p ∈ r.paths, h.files.holds p = false) → ∃ o, Refused h stamp arguments r o) ∧
    ((∀ p ∈ r.paths, h.files.holds p = true) →
      (∃ s ∈ r.sourcesOn h, ¬ WordList.Readable h.files h.builtins s) →
        ∃ o, Unloaded h stamp arguments r o) ∧
    ((∀ p ∈ r.paths, h.files.holds p = true) →
      (∀ s ∈ r.sourcesOn h, WordList.Readable h.files h.builtins s) →
        ∃ o d report, Scanned h stamp arguments r d report o) :=
  ⟨refused_of_missing h stamp parsed, unloaded_of_unreadable h stamp parsed named,
    scanned_of_readable h stamp parsed named writable⟩

/-- A request for one file. -/
def oneFile : Request := { Request.nothing with paths := [⟨"", ["a.py"]⟩] }

theorem request_oneFile : request (options (Config.load []).toValue) ["a.py"] = .ok oneFile := rfl

theorem named_oneFile : (oneFile.configure (Config.load [])).logLevel ∈ Log.levelNumbers.map (·.1) := by
  decide +kernel

theorem sources_oneFile (fs : FileSystem) (settings : Settings) (builtins : WordList.Builtins) :
    oneFile.sourcesOn ⟨fs, [], settings, builtins⟩ = [.builtin "en"] := by
  have sources : WordList.sourcesOf (oneFile.configure (Config.load [])) (oneFile.wordLists.map .ofString) =
      [.builtin "en"] := by
    decide +kernel
  exact sources

theorem holds_oneFile (first second : List UInt8) :
    ∀ p ∈ oneFile.paths, (Scan.twoFiles first second).holds p = true := by
  have located : (Scan.twoFiles first second).locate .existing ⟨"", ["a.py"]⟩ = .ok ["a.py"] := by
    simp [Scan.twoFiles, FileSystem.locate, FileSystem.follow, FileSystem.start, Path.isAbsolute, Entry.under?,
      Entry.child?]
  intro p member
  obtain rfl := List.mem_singleton.mp member
  rw [FileSystem.holds, FileSystem.entry, located]
  rfl

theorem not_holds_oneFile : ∃ p ∈ oneFile.paths, FileSystem.holds ⟨.folder [], []⟩ p = false := by
  have located : FileSystem.locate ⟨.folder [], []⟩ .existing ⟨"", ["a.py"]⟩ = .error .missing := by
    simp [FileSystem.locate, FileSystem.follow, FileSystem.start, Path.isAbsolute, Entry.under?, Entry.child?]
  refine ⟨_, List.mem_singleton_self _, ?_⟩
  rw [FileSystem.holds, FileSystem.entry, located]
  rfl

/-- The same arguments are refused without the file, do not start a scan without a built-in word list, and scan with
both. -/
theorem run_outcomes_oneFile :
    (∃ o, Refused ⟨⟨.folder [], []⟩, [], .initial, WordList.noBuiltins⟩ ⟨"", "", ""⟩ ["a.py"] oneFile o) ∧
    (∃ o, Unloaded ⟨Scan.twoFiles [] [], [], .initial, WordList.noBuiltins⟩ ⟨"", "", ""⟩ ["a.py"] oneFile o) ∧
    ∃ o d report,
      Scanned ⟨Scan.twoFiles [] [], [], .initial, fun _ => some []⟩ ⟨"", "", ""⟩ ["a.py"] oneFile d report o := by
  refine ⟨?_, ?_, ?_⟩
  · exact (run_outcomes ⟨⟨.folder [], []⟩, [], .initial, WordList.noBuiltins⟩ _ request_oneFile named_oneFile
      trivial).1 not_holds_oneFile
  · refine (run_outcomes ⟨Scan.twoFiles [] [], [], .initial, WordList.noBuiltins⟩ _ request_oneFile named_oneFile
      trivial).2.1 (holds_oneFile [] []) ⟨.builtin "en", ?_, ?_⟩
    · exact sources_oneFile _ _ _ ▸ List.mem_singleton_self _
    · rintro ⟨words, read⟩
      cases read
  · refine (run_outcomes ⟨Scan.twoFiles [] [], [], .initial, fun _ => some []⟩ _ request_oneFile named_oneFile
      trivial).2.2 (holds_oneFile [] []) ?_
    intro s member
    rw [sources_oneFile, List.mem_singleton] at member
    subst member
    exact ⟨[], rfl⟩

end Command

end SpellLint
