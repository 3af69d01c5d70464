import SpellLint.Artifact
import SpellLint.Check.Settings
import SpellLint.Diagnostic

/-! # The spelling check

One failed result for every span at which a source has unknown words, by span; one passed result if there are
none; one failed result without a span if the file cannot be checked.
-/

set_option autoImplicit false

namespace SpellLint

/-- A rule that looks at files. It may break down on a file. -/
structure Check where
  name : String
  appliesTo : List String
  run : Artifact → Logged (Except Failure (List Result))

namespace SpellingCheck

/-- The name of the check. -/
def name : String := "spelling"

/-- The one result of a file that cannot be checked. -/
def refused (file : Path) (message : String) (details : Value) : List Result :=
  [⟨file, name, .warning, false, message, details, none⟩]

/-- The result of a diagnostic. -/
def misspelled (file : Path) (d : Diagnostic) : Result where
  file := file
  check := name
  severity := .warning
  passed := false
  message := d.message
  details := .record
    [("location", .text d.location), ("words", .texts d.words),
      ("source_line", (d.sourceLine.map Value.text).getD .null),
      ("span", .list [.int d.span.start, .int d.span.stop])]
  span := some d.span

/-- The results of the diagnostics of a source; `accepted` counts the words that it asks to accept. -/
def report (file : Path) (accepted : Nat) (diagnostics : List Diagnostic) : List Result :=
  if diagnostics.isEmpty then
    [⟨file, name, .info, true, "OK: no misspellings", .record [("extra_words", .int accepted)], none⟩]
  else diagnostics.map (misspelled file)

/-- The dictionary for one source: also accepts the words that the source asks to accept. -/
def dictionaryFor (file : Path) (d : Dictionary) (words : List String) : Logged Dictionary := do
  if words.isEmpty then return d
  Logged.tell .debug "checks.spelling_checks" s!"{file}: accepting {words.length} extra word(s)"
  return d.extended words

/-- The diagnostics of a source. -/
def diagnose (d : Dictionary) (policy : Policy) (view : SourceView) : Logged (List Diagnostic) := do
  let found ← Findings.ofView d policy view
  return Diagnostic.render view.location view.firstLine found.ordered

/-- The results for a file. -/
def run (settings : Settings) (artifact : Artifact) : Logged (List Result) :=
  match artifact.content, settings.dictionary with
  | .unreadable detail, _ =>
    return refused artifact.path "Unreadable source (parse error)" (.record [("detail", detail)])
  | .readable _, none =>
    return refused artifact.path "Spelling dictionary not loaded" (.record [("reason", .text "no_dictionary")])
  | .readable view, some shared => do
    let d ← dictionaryFor artifact.path shared view.acceptedWords
    let diagnostics ← diagnose d settings.policy view
    return report artifact.path view.acceptedWords.length diagnostics

end SpellingCheck

/-- The spelling check applies to every file and never breaks down. -/
def spellingCheck (settings : Settings) : Check where
  name := SpellingCheck.name
  appliesTo := ["*"]
  run artifact := do return .ok (← SpellingCheck.run settings artifact)

end SpellLint
