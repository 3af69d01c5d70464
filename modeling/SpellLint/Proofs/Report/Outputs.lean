import SpellLint.Proofs.Check.Reported
import SpellLint.Proofs.Scan.Containment
import SpellLint.Report.Json
import SpellLint.Report.Listing

/-! # What is written out

A report is written out as a table, as a value and as a listing. Each of them picks out the misspellings on its own;
all pick the same results in the same order, and as many as the report counts (`Report.Shows`). The misspellings that
the spelling check finds in a file ascend by span.
-/

set_option autoImplicit false

namespace SpellLint

/-! ## The table -/

namespace Result

/-- The words that a result mentions, if it mentions any, are texts. -/
def WordsAreTexts (r : Result) : Prop :=
  r.details.has "words" = true → ∃ words, r.details.get "words" = .texts words

theorem textItems_texts (n : Nat) (words : List String) :
    Value.textItems n (words.map Value.text) = .ok words := by
  induction words generalizing n with
  | nil => rfl
  | cons word words ih =>
    rw [List.map_cons, Value.textItems, ih]
    rfl

theorem words_eq_ok {r : Result} (texts : r.WordsAreTexts) (sep : String) : ∃ s, r.words sep = .ok s := by
  unfold words
  split
  · next mentioned =>
    obtain ⟨words, listed⟩ := texts mentioned
    refine ⟨sep.intercalate words, ?_⟩
    have items : (r.details.get "words").texts? = .ok words := by
      rw [listed]
      exact textItems_texts 0 words
    rw [items]
    rfl
  · exact ⟨"", rfl⟩

end Result

namespace Report

theorem misspellingRow_eq_ok {r : Result} (texts : r.WordsAreTexts) : ∃ row, misspellingRow r = .ok row := by
  obtain ⟨words, joined⟩ := Result.words_eq_ok texts " "
  unfold misspellingRow
  rw [joined]
  exact ⟨_, rfl⟩

/-- Results that all have a row have as many rows, in the same order. -/
theorem mapM_misspellingRow {results : List Result} (texts : ∀ r ∈ results, r.WordsAreTexts) :
    ∃ rows, results.mapM misspellingRow = .ok rows ∧
      List.Forall₂ (fun r row => misspellingRow r = .ok row) results rows := by
  induction results with
  | nil => exact ⟨[], rfl, .nil⟩
  | cons r results ih =>
    obtain ⟨row, first⟩ := misspellingRow_eq_ok (texts r List.mem_cons_self)
    obtain ⟨rows, rest, each⟩ := ih fun x member => texts x (List.mem_cons_of_mem r member)
    refine ⟨row :: rows, ?_, .cons first each⟩
    rw [List.mapM_cons, first, rest]
    rfl

end Report

/-! ## The value -/

namespace Value

/-- The items of a list; none of anything else. -/
def items : Value → List Value
  | list items => items
  | _ => []

/-- Whether a value is null. -/
def isNull : Value → Bool
  | null => true
  | _ => false

/-- The results in the value of a report, file by file. -/
def reportedResults (report : Value) : List Value :=
  (report.get "files").items.flatMap fun file => (file.get "results").items

/-- Whether the value of a result has a span and failed. -/
def failedAtSpan (result : Value) : Bool :=
  !(result.get "span").isNull && (result.get "passed").bool? == some false

end Value

theorem Result.failedAtSpan_toValue (r : Result) : r.toValue.failedAtSpan = r.isMisspelling := by
  obtain ⟨file, check, severity, passed, message, details, span⟩ := r
  cases span <;> cases passed <;> rfl

namespace Report

theorem reportedResults_toValue (stamp : Stamp) (r : Report) :
    (r.toValue stamp).reportedResults = r.results.map Result.toValue := by
  have files : (r.toValue stamp).get "files" = .list (r.files.map FileReport.toValue) := rfl
  have results : ∀ f : FileReport, (f.toValue.get "results").items = f.results.map Result.toValue := fun _ => rfl
  unfold Value.reportedResults Report.results
  rw [files, Value.items, List.flatMap_map, List.map_flatMap]
  simp only [results]

theorem filter_failedAtSpan_toValue (stamp : Stamp) (r : Report) :
    (r.toValue stamp).reportedResults.filter Value.failedAtSpan = r.misspelled.map Result.toValue := by
  rw [reportedResults_toValue, List.filter_map, misspelled]
  congr 2
  funext x
  exact x.failedAtSpan_toValue

end Report

/-! ## The listing -/

namespace Result

/-- What a listing says first of a misspelling: where it is and what is wrong. -/
def headline (r : Result) : String := (r.location r.file.toString).shown ++ ": " ++ r.message

theorem head?_lines (r : Result) : r.lines.head? = some r.headline := rfl

theorem listed_value (r : Result) : r.listed.value = if r.isMisspelling then r.lines else [] := by
  unfold listed
  split
  · rfl
  · split <;> rfl

end Result

namespace Report

/-- What a listing says of each result of which it says anything. -/
def entries (r : Report) : List (List String) := (r.results.map fun x => x.listed.value).filter (· ≠ [])

theorem entries_eq (r : Report) : r.entries = r.misspelled.map Result.lines := by
  unfold entries misspelled
  induction r.results with
  | nil => rfl
  | cons x results ih =>
    rw [List.map_cons, List.filter_cons, List.filter_cons, x.listed_value, ih]
    cases x.isMisspelling <;> rfl

theorem listing_value (r : Report) : r.listing.value = String.join (r.entries.flatten.map (· ++ "\n")) := by
  unfold listing entries
  rw [Logged.value_bind, Logged.value_pure, Logged.value_mapM, List.flatten_filter_ne_nil]

theorem listing_value_eq_empty_iff (r : Report) : r.listing.value = "" ↔ r.misspelled = [] := by
  rw [listing_value, entries_eq]
  cases r.misspelled with
  | nil => exact iff_of_true rfl rfl
  | cons x results =>
    refine iff_of_false ?_ (List.cons_ne_nil _ _)
    rw [List.map_cons, List.flatten_cons, Result.lines, List.cons_append, List.map_cons, String.join_cons]
    simp [String.append_eq_empty_iff]

/-! ## The counts -/

theorem misspelled_eq (r : Report) :
    r.misspelled = r.files.flatMap fun f => f.results.filter Result.isMisspelling := by
  unfold misspelled results
  rw [List.filter_flatMap]

end Report

theorem sumOver_misspellings {files : List FileReport} (consistent : ∀ f ∈ files, f.Consistent) :
    sumOver (·.misspellings) files = (files.flatMap fun f => f.results.filter Result.isMisspelling).length := by
  induction files with
  | nil => rfl
  | cons f files ih =>
    have own : f.misspellings = (f.results.filter Result.isMisspelling).length := by
      rw [(consistent f List.mem_cons_self).misspellings, ← Result.countP_isMisspelling, List.countP_eq_length_filter]
    have rest := ih fun g member => consistent g (List.mem_cons_of_mem f member)
    rw [List.flatMap_cons, List.length_append, ← own, ← rest]
    rfl

theorem any_misspellings_iff (files : List FileReport) :
    files.any (0 < ·.misspellings) = true ↔ 0 < sumOver (·.misspellings) files := by
  induction files with
  | nil => decide
  | cons f files ih =>
    rw [List.any_cons, Bool.or_eq_true, ih, decide_eq_true_iff]
    change _ ↔ 0 < f.misspellings + sumOver (·.misspellings) files
    omega

/-! ## The spelling check -/

/-- The spans of results that have one ascend strictly. -/
def SpansAscend (results : List Result) : Prop := (results.filterMap (·.span)).Pairwise Span.Precedes

/-- The spelling check says that it cannot check a file, or it gives the results for a source that can be read. -/
theorem SpellingCheck.run_value_cases (settings : Settings) (artifact : Artifact) :
    (∃ message name detail, name ≠ "words" ∧
      (run settings artifact).value = refused artifact.path message (.record [(name, detail)])) ∨
    ∃ shared view, (run settings artifact).value =
      resultsOf shared settings.policy artifact.path artifact.extension artifact.size view := by
  obtain ⟨dictionary, policy⟩ := settings
  obtain ⟨path, extension, size, content⟩ := artifact
  cases content with
  | unreadable detail => exact .inl ⟨_, "detail", detail, by decide, rfl⟩
  | readable view =>
    cases dictionary with
    | none => exact .inl ⟨_, "reason", _, by decide, rfl⟩
    | some shared => exact .inr ⟨shared, view, rfl⟩

theorem SpellingCheck.run_spansAscend (settings : Settings) (artifact : Artifact) :
    SpansAscend (run settings artifact).value := by
  rcases run_value_cases settings artifact with ⟨message, name, detail, -, refuses⟩ | ⟨shared, view, gives⟩
  · rw [refuses]
    exact .nil
  · rw [gives, resultsOf_eq]
    dsimp only
    split
    · exact .nil
    · have spans : ∀ findings : List (Span × List String),
          (findings.map (failure artifact.path view)).filterMap (·.span) = findings.map (·.1) := by
        intro findings
        rw [List.filterMap_map]
        exact congrFun List.filterMap_eq_map findings
      unfold SpansAscend
      rw [spans, List.pairwise_map]
      exact Findings.ordered_ascending _

theorem Result.wordsAreTexts_of_other {file : Path} {check message name : String} {severity : Severity}
    {passed : Bool} {span : Option Span} {field : Value} (other : name ≠ "words") :
    WordsAreTexts ⟨file, check, severity, passed, message, .record [(name, field)], span⟩ := by
  intro mentioned
  have named : (name == "words") = true := by simpa [Value.has] using mentioned
  exact absurd (beq_iff_eq.mp named) other

/-- The words that the spelling check mentions are texts. -/
theorem SpellingCheck.wordsAreTexts_of_mem_run {settings : Settings} {artifact : Artifact} {r : Result}
    (member : r ∈ (run settings artifact).value) : r.WordsAreTexts := by
  rcases run_value_cases settings artifact with ⟨message, name, detail, other, refuses⟩ | ⟨shared, view, gives⟩
  · rw [refuses, refused, List.mem_singleton] at member
    subst member
    exact Result.wordsAreTexts_of_other other
  · rw [gives, resultsOf_eq] at member
    dsimp only at member
    split at member
    · obtain rfl := List.mem_singleton.mp member
      exact Result.wordsAreTexts_of_other (by decide)
    · obtain ⟨finding, -, rfl⟩ := List.mem_map.mp member
      exact fun _ => ⟨finding.2, rfl⟩

theorem Scan.Adds.spansAscend {settings : Settings} {artifact : Artifact} {part : List Result}
    (h : Adds artifact (spellingCheck settings) part) : SpansAscend part := by
  have ran : ((spellingCheck settings).run artifact).value = .ok (SpellingCheck.run settings artifact).value := rfl
  cases h with
  | results ran' =>
    rw [ran] at ran'
    cases ran'
    exact SpellingCheck.run_spansAscend settings artifact
  | failure broke =>
    rw [ran] at broke
    cases broke

/-- The misspellings of a report on a file come from the checks in turn, and those of the spelling check ascend. -/
theorem Scan.Accounted.parts {fs : FileSystem} {plugins : Plugins} {file : Path} {results : List Result}
    (h : Accounted fs plugins file results) :
    results.filter Result.isMisspelling = [] ∨
      ∃ artifact parts, results = parts.flatten ∧
        List.Forall₂ (fun check part => Adds artifact check part ∧
            ((∃ settings, check = spellingCheck settings) → SpansAscend part))
          (plugins.checks.toList.filter (applies · file.extension)) parts := by
  cases h with
  | unclaimed nobody => exact .inl rfl
  | @unbuilt _ _ r _ _ _ nowhere =>
    left
    rw [List.filter_singleton, Result.isMisspelling, nowhere]
    rfl
  | @checked _ artifact parts _ _ added =>
    refine .inr ⟨artifact, parts, rfl, added.imp ?_⟩
    rintro check part adds
    refine ⟨adds, ?_⟩
    rintro ⟨settings, rfl⟩
    exact adds.spansAscend

/-! ## All outputs -/

/-- The misspellings that all ways of writing a report out agree on. -/
structure Report.Shows (stamp : Stamp) (r : Report) (found : List Result) : Prop where
  /-- They come file by file. -/
  found_eq : found = r.files.flatMap fun f => f.results.filter Result.isMisspelling
  total : r.totals.misspellings = found.length
  perFile : sumOver (·.misspellings) r.files = found.length
  /-- The table has a header and one row for each. -/
  table : ∃ rows,
    r.misspellingsTable =
        .ok (tableOf fileLineEnd (["File", "Location", "Start", "End", "Words", "SourceLine"] :: rows)) ∧
      rows.length = found.length ∧ List.Forall₂ (fun x row => misspellingRow x = .ok row) found rows
  /-- They are the results of the value that have a span and failed. -/
  value : (r.toValue stamp).reportedResults.filter Value.failedAtSpan = found.map Result.toValue
  /-- The listing says something of each, and of nothing else. -/
  entries : r.entries = found.map Result.lines
  headlines : r.entries.map List.head? = found.map fun x => some x.headline
  listing : r.listing.value = String.join (r.entries.flatten.map (· ++ "\n"))
  listing_iff : r.listing.value ≠ "" ↔ 0 < found.length
  mistakes_iff : r.hadMistakes = true ↔ 0 < found.length

theorem Report.shows_ofFiles (stamp : Stamp) (inputs : List Path) (config : Value) {files : List FileReport}
    (consistent : ∀ f ∈ files, f.Consistent) (texts : ∀ f ∈ files, ∀ r ∈ f.results, r.WordsAreTexts) :
    (ofFiles inputs config files).Shows stamp (ofFiles inputs config files).misspelled := by
  let report := ofFiles inputs config files
  have found : report.misspelled = files.flatMap fun f => f.results.filter Result.isMisspelling := report.misspelled_eq
  have sum : sumOver (·.misspellings) files = report.misspelled.length := by
    rw [found]
    exact sumOver_misspellings consistent
  have rowTexts : ∀ r ∈ report.misspelled, r.WordsAreTexts := by
    intro r member
    rw [found, List.mem_flatMap] at member
    obtain ⟨f, inFiles, member⟩ := member
    exact texts f inFiles r (List.mem_of_mem_filter member)
  obtain ⟨rows, mapped, each⟩ := mapM_misspellingRow rowTexts
  have table : report.misspellingsTable =
      .ok (tableOf fileLineEnd (["File", "Location", "Start", "End", "Words", "SourceLine"] :: rows)) := by
    unfold misspellingsTable misspellingRows
    rw [mapped]
    rfl
  have headlines : report.entries.map List.head? = report.misspelled.map fun x => some x.headline := by
    rw [entries_eq, List.map_map]
    exact List.map_congr_left fun x _ => x.head?_lines
  have listed : report.listing.value ≠ "" ↔ 0 < report.misspelled.length := by
    rw [Ne, listing_value_eq_empty_iff, List.length_pos_iff]
  have mistakes : report.hadMistakes = true ↔ 0 < report.misspelled.length := by
    rw [← sum]
    exact any_misspellings_iff files
  exact ⟨found, sum, sum, ⟨rows, table, each.length_eq.symm, each⟩, filter_failedAtSpan_toValue stamp report,
    entries_eq report, headlines, listing_value report, listed, mistakes⟩

/-- A scan that goes through reports on files in turn. -/
theorem Scan.report_eq_of_run {fs : FileSystem} {plugins : Plugins} {selection : Selection} {config : Value}
    {inputs : List Path} {progress : List Progress} {report : Report}
    (done : (run fs plugins selection config inputs).value = .ok (progress, report)) :
    ∃ files : List Path, report = .ofFiles inputs config (files.map (reportOn fs plugins)) := by
  rw [run_value] at done
  cases expanded : fs.expand selection inputs with
  | error e =>
    rw [expanded] at done
    cases done
  | ok files =>
    rw [expanded] at done
    cases done
    exact ⟨files, rfl⟩

theorem Report.shows_of_run {fs : FileSystem} {plugins : Plugins} {selection : Selection} {config : Value}
    {inputs : List Path} {progress : List Progress} {report : Report}
    (done : (Scan.run fs plugins selection config inputs).value = .ok (progress, report))
    (texts : ∀ f ∈ report.files, ∀ r ∈ f.results, r.WordsAreTexts) (stamp : Stamp) :
    report.Shows stamp report.misspelled := by
  obtain ⟨files, rfl⟩ := Scan.report_eq_of_run done
  refine shows_ofFiles stamp inputs config ?_ texts
  intro f member
  obtain ⟨file, -, rfl⟩ := List.mem_map.mp member
  exact FileReport.consistent_ofResults _ _ _ _

/-- The table, the value and the listing of what a scan reports show the same misspellings in the same order, as many
as are counted, and there are mistakes exactly if there are any. They come file by file; inside a file they come check
by check, and those that the spelling check finds ascend by span. -/
theorem Report.outputs_agree (fs : FileSystem) (plugins : Plugins) (selection : Selection) (config : Value)
    (inputs : List Path) (stamp : Stamp) {progress : List Progress} {report : Report}
    (done : (Scan.run fs plugins selection config inputs).value = .ok (progress, report))
    (texts : ∀ f ∈ report.files, ∀ r ∈ f.results, r.WordsAreTexts) :
    (∃ found, report.Shows stamp found) ∧
      ∀ f ∈ report.files, f.results.filter Result.isMisspelling = [] ∨
        ∃ artifact parts, f.results = parts.flatten ∧
          List.Forall₂ (fun check part => Scan.Adds artifact check part ∧
              ((∃ settings, check = spellingCheck settings) → SpansAscend part))
            (plugins.checks.toList.filter (Scan.applies · f.file.extension)) parts := by
  refine ⟨⟨_, shows_of_run done texts stamp⟩, ?_⟩
  obtain ⟨files, rfl⟩ := Scan.report_eq_of_run done
  intro f member
  obtain ⟨file, -, rfl⟩ := List.mem_map.mp member
  have accounted := Scan.resultsFor_accounted fs plugins file
  rw [← Scan.results_reportOn] at accounted
  exact accounted.parts

/-- A processor that takes every file for an unreadable one. -/
def plainProcessor : Processor where
  supports := [".py"]
  build _ file := return .ok ⟨file, ".py", 0, .unreadable .null⟩

/-- A check that finds fault with the start of every file, as an error. -/
def flaggingCheck : Check where
  name := "flagging"
  appliesTo := ["*"]
  run artifact :=
    return .ok [⟨artifact.path, "flagging", .error, false, "Odd start", .record [("words", .texts ["odd"])],
      some .origin⟩]

/-- Plugins that find fault with every file that they can read. -/
def flaggingPlugins : Plugins where
  processors := Registry.empty.register ⟨"plain", []⟩ plainProcessor
  checks := Registry.empty.register ⟨"flagging", []⟩ flaggingCheck

theorem results_flaggingPlugins :
    (Scan.reportOn (Scan.twoFiles [] []) flaggingPlugins ⟨"/", ["b.py"]⟩).results =
      [⟨⟨"/", ["b.py"]⟩, "flagging", .error, false, "Odd start", .record [("words", .texts ["odd"])],
        some .origin⟩] := by
  have claimed : flaggingPlugins.processors.claimant (·.supports) (Path.extension ⟨"/", ["b.py"]⟩) =
      some plainProcessor := by
    have own : (plainProcessor.supports.map Text.lower).contains
        (Text.lower (Path.extension ⟨"/", ["b.py"]⟩)) = true := by
      decide +kernel
    exact List.find?_cons_of_pos own
  have applies : Scan.applies flaggingCheck (Path.extension ⟨"/", ["b.py"]⟩) = true := by
    decide +kernel
  have running : flaggingPlugins.checks.toList.filter (Scan.applies · (Path.extension ⟨"/", ["b.py"]⟩)) =
      [flaggingCheck] := List.filter_cons_of_pos applies
  rw [Scan.results_reportOn, Scan.resultsFor_of_built claimed rfl, Scan.runChecks_value, running, List.map_singleton,
    Scan.runCheck_of_ok rfl, List.flatten_singleton]

/-- A fault with a span counts in every output, be it an error or a warning. -/
theorem Report.outputs_agree_flagged :
    ∃ progress report found,
      (Scan.run (Scan.twoFiles [] []) flaggingPlugins ⟨[".py"], []⟩ .null [⟨"", ["b.py"]⟩]).value =
        .ok (progress, report) ∧
      (∀ f ∈ report.files, ∀ r ∈ f.results, r.WordsAreTexts) ∧ report.Shows ⟨"", "", ""⟩ found ∧ found.length = 1 := by
  have done : (Scan.run (Scan.twoFiles [] []) flaggingPlugins ⟨[".py"], []⟩ .null [⟨"", ["b.py"]⟩]).value =
      .ok (Scan.steps [⟨"/", ["b.py"]⟩], .ofFiles [⟨"", ["b.py"]⟩] .null
        ([⟨"/", ["b.py"]⟩].map (Scan.reportOn (Scan.twoFiles [] []) flaggingPlugins))) := by
    rw [Scan.run_value, Scan.expand_twoFiles [] [] (.inr rfl)]
    rfl
  have results := results_flaggingPlugins
  generalize Scan.reportOn (Scan.twoFiles [] []) flaggingPlugins = reportOn at done results
  have texts : ∀ f ∈ [reportOn ⟨"/", ["b.py"]⟩], ∀ r ∈ f.results, r.WordsAreTexts := by
    intro f inFiles r member
    rw [List.mem_singleton.mp inFiles, results, List.mem_singleton] at member
    subst member
    exact fun _ => ⟨["odd"], rfl⟩
  obtain ⟨found, shows⟩ := (outputs_agree _ _ _ _ _ ⟨"", "", ""⟩ done texts).1
  refine ⟨_, _, found, done, texts, shows, ?_⟩
  rw [shows.found_eq]
  change ([reportOn _].flatMap _).length = 1
  rw [List.flatMap_singleton, results]
  rfl

/-! ## The standard plugins -/

theorem Scan.wordsAreTexts_standard {fs : FileSystem} {settings : Settings} {file : Path} {r : Result}
    (member : r ∈ (reportOn fs (.standard settings) file).results) : r.WordsAreTexts := by
  rw [results_reportOn, resultsFor_standard] at member
  unfold resultsFrom at member
  split at member
  · split at member
    · obtain rfl := List.mem_singleton.mp member
      exact Result.wordsAreTexts_of_other (by decide)
    · exact SpellingCheck.wordsAreTexts_of_mem_run member
  · obtain rfl := List.mem_singleton.mp member
    exact Result.wordsAreTexts_of_other (by decide)

/-- Whatever a scan with the standard plugins reports can be written out. -/
theorem Report.shows_standard {fs : FileSystem} {settings : Settings} {selection : Selection} {config : Value}
    {inputs : List Path} {progress : List Progress} {report : Report}
    (done : (Scan.run fs (.standard settings) selection config inputs).value = .ok (progress, report)) (stamp : Stamp) :
    report.Shows stamp report.misspelled := by
  refine shows_of_run done ?_ stamp
  obtain ⟨files, rfl⟩ := Scan.report_eq_of_run done
  intro f member r found
  obtain ⟨file, -, rfl⟩ := List.mem_map.mp member
  exact Scan.wordsAreTexts_standard found

end SpellLint
