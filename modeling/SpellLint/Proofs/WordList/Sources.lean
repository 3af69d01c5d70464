import SpellLint.Proofs.Dictionary.Casing
import SpellLint.Proofs.Text.Lines
import SpellLint.Proofs.WordList.Loading

/-! # The words of a loaded dictionary

A dictionary holds what its sources offer: the lines of a file that are neither blank nor comments, trimmed and in lower
case, and the words of a built-in list. Which bytes end a line does not matter, because a text has the same lines before
and after its line ends are unified (`lines_unifyLineEnds`). A source that cannot be read stops the loading, and the
error names the first such source (`load_eq_error_iff`); there is no dictionary of only some of the sources.
-/

set_option autoImplicit false

namespace SpellLint

open SpellLint.Text

/-! ## Words of lines -/

theorem strip_ofList (line : List Char) : strip (String.ofList line) = String.ofList (trim line) := by
  rw [strip, String.toList_ofList]

theorem normalForm_ofList_trim (line : List Char) :
    normalForm (String.ofList (trim line)) = lower (String.ofList (trim line)) := by
  rw [normalForm, strip_ofList, trim_of_trimmed (trimmed_trim line)]

namespace WordList

/-- A line that holds a word: it is not blank, and it is no comment. -/
def HoldsWord (line : List Char) : Prop := trim line ≠ [] ∧ (trim line).head? ≠ some '#'

theorem mem_wordsOf {text : List Char} {word : String} :
    word ∈ wordsOf text ↔ ∃ line ∈ lines text, HoldsWord line ∧ String.ofList (trim line) = word := by
  unfold wordsOf HoldsWord
  rw [List.mem_filter, List.mem_map]
  constructor
  · rintro ⟨⟨line, listed, rfl⟩, holds⟩
    refine ⟨line, listed, ?_, rfl⟩
    simpa [isWord] using holds
  · rintro ⟨line, listed, holds, rfl⟩
    refine ⟨⟨line, listed, rfl⟩, ?_⟩
    simpa [isWord] using holds

theorem HoldsWord.lower_ne_empty {line : List Char} (h : HoldsWord line) : lower (String.ofList (trim line)) ≠ "" := by
  have nonblank : strip (String.ofList line) ≠ "" := by
    rw [strip_ofList]
    exact fun blank => h.1 (String.ofList_eq_empty_iff.mp blank)
  have form := normalForm_ne_empty nonblank
  rwa [normalForm, strip_ofList] at form

/-! ## What a source offers -/

section

variable (fs : FileSystem) (builtins : Builtins)

/-- A path leads to a file that holds a text. -/
def HoldsText (p : Path) (text : List Char) : Prop := ∃ bytes, fs.read p = .ok bytes ∧ decodeUtf8 bytes = .ok text

/-- A built-in list can be read if there is one for the language, a file if it can be read and decoded. -/
def CanBeRead : Source → Prop
  | .builtin language => ∃ words, builtins language = some words
  | .file p => ∃ text, HoldsText fs p text

/-- The forms of words that a source offers. -/
inductive Offers : Source → String → Prop where
  | line {p : Path} {text line : List Char} (held : HoldsText fs p text) (listed : line ∈ lines text)
      (holds : HoldsWord line) : Offers (.file p) (lower (String.ofList (trim line)))
  | builtin {language : String} {words : List String} {word : String} (available : builtins language = some words)
      (listed : word ∈ words) (filled : normalForm word ≠ "") : Offers (.builtin language) (normalForm word)

/-- How a source is named in an error. -/
def Source.name : Source → String
  | .builtin language => "builtin:" ++ language
  | .file p => p.toString

/-- The text of a file, or why it cannot be read. -/
def textOf (p : Path) : Except LoadError (List Char) :=
  match fs.read p with
  | .error e => .error ⟨p.toString, .file e p⟩
  | .ok bytes => (decodeUtf8 bytes).mapError fun e => ⟨p.toString, .bytes e⟩

theorem readSource_file_value (p : Path) :
    (readSource fs builtins (.file p)).value = (textOf fs p).map wordsOf := by
  change (read fs p).value = _
  unfold read textOf
  cases fs.read p with
  | error e => rfl
  | ok bytes =>
    simp only
    cases decodeUtf8 bytes with
    | error e => rfl
    | ok text =>
      have same : wordsOf (unifyLineEnds text) = wordsOf text := by rw [wordsOf, lines_unifyLineEnds, wordsOf]
      exact congrArg Except.ok same

theorem readSource_builtin_value (language : String) :
    (readSource fs builtins (.builtin language)).value =
      match builtins language with
      | some words => .ok words
      | none => .error ⟨Config.builtin ++ ":" ++ language, .language language⟩ := by
  rw [readSource]
  cases builtins language <;> rfl

end

section

variable {fs : FileSystem} {builtins : Builtins} {s : Source}

theorem textOf_eq_ok_iff {p : Path} {text : List Char} : textOf fs p = .ok text ↔ HoldsText fs p text := by
  unfold textOf HoldsText
  cases fs.read p with
  | error e => simp
  | ok bytes =>
    simp only [Except.ok.injEq, exists_eq_left']
    cases decodeUtf8 bytes <;> simp [Except.mapError]

theorem source_of_textOf {p : Path} {e : LoadError} (failed : textOf fs p = .error e) : e.source = p.toString := by
  unfold textOf at failed
  split at failed
  · cases failed
    rfl
  · next bytes _ =>
    cases decoded : decodeUtf8 bytes with
    | error fault =>
      rw [decoded] at failed
      cases failed
      rfl
    | ok text =>
      rw [decoded] at failed
      cases failed

theorem gives_file_iff {p : Path} {words : List String} :
    Gives fs builtins (.file p) words ↔ ∃ text, HoldsText fs p text ∧ wordsOf text = words := by
  rw [Gives, readSource_file_value, map_eq_ok_iff]
  simp only [textOf_eq_ok_iff]

theorem gives_builtin_iff {language : String} {words : List String} :
    Gives fs builtins (.builtin language) words ↔ builtins language = some words := by
  rw [Gives, readSource_builtin_value]
  cases builtins language <;> simp

theorem readable_iff : Readable fs builtins s ↔ CanBeRead fs builtins s := by
  cases s with
  | builtin language => exact exists_congr fun words => gives_builtin_iff
  | file p =>
    unfold Readable CanBeRead
    simp only [gives_file_iff]
    constructor
    · rintro ⟨words, text, held, -⟩
      exact ⟨text, held⟩
    · rintro ⟨text, held⟩
      exact ⟨wordsOf text, text, held, rfl⟩

/-- The error of a source that cannot be read names it. -/
theorem source_of_readSource {e : LoadError} (failed : (readSource fs builtins s).value = .error e) :
    e.source = s.name := by
  cases s with
  | builtin language =>
    rw [readSource_builtin_value] at failed
    split at failed
    · cases failed
    · cases failed
      rfl
  | file p =>
    rw [readSource_file_value] at failed
    cases held : textOf fs p with
    | error fault =>
      rw [held] at failed
      cases failed
      exact source_of_textOf held
    | ok text =>
      rw [held] at failed
      cases failed

/-- The normal forms of the words of a source are what it offers. -/
theorem offers_iff {words : List String} (gives : Gives fs builtins s words) (form : String) :
    Offers fs builtins s form ↔ form ≠ "" ∧ ∃ word ∈ words, normalForm word = form := by
  cases s with
  | builtin language =>
    have available := gives_builtin_iff.mp gives
    constructor
    · intro offers
      cases offers with
      | builtin available' listed filled =>
        obtain rfl := Option.some.inj (available.symm.trans available')
        exact ⟨filled, _, listed, rfl⟩
    · rintro ⟨filled, word, listed, rfl⟩
      exact .builtin available listed filled
  | file p =>
    obtain ⟨text, held, rfl⟩ := gives_file_iff.mp gives
    simp only [mem_wordsOf]
    constructor
    · intro offers
      cases offers with
      | line held' listed holds =>
        obtain rfl := Except.ok.inj ((textOf_eq_ok_iff.mpr held).symm.trans (textOf_eq_ok_iff.mpr held'))
        exact ⟨holds.lower_ne_empty, _, ⟨_, listed, holds, rfl⟩, normalForm_ofList_trim _⟩
    · rintro ⟨-, word, ⟨line, listed, holds, rfl⟩, rfl⟩
      rw [normalForm_ofList_trim]
      exact .line held listed holds

/-! ## The first source that cannot be read -/

/-- The first source that cannot be read fails with an error. -/
def FailsFirst (fs : FileSystem) (builtins : Builtins) (sources : List Source) (e : LoadError) : Prop :=
  ∃ before t after, sources = before ++ t :: after ∧ (∀ s ∈ before, CanBeRead fs builtins s) ∧
    (readSource fs builtins t).value = .error e

theorem not_failsFirst_nil (e : LoadError) : ¬ FailsFirst fs builtins [] e := by
  rintro ⟨before, t, after, cut, -⟩
  exact absurd cut.symm (List.append_ne_nil_of_right_ne_nil before (List.cons_ne_nil t after))

theorem failsFirst_cons {rest : List Source} {e : LoadError} :
    FailsFirst fs builtins (s :: rest) e ↔
      (readSource fs builtins s).value = .error e ∨ CanBeRead fs builtins s ∧ FailsFirst fs builtins rest e := by
  constructor
  · rintro ⟨before, t, after, cut, readable, failed⟩
    cases before with
    | nil =>
      obtain ⟨rfl, -⟩ := List.cons.inj cut
      exact .inl failed
    | cons u before =>
      obtain ⟨rfl, rfl⟩ := List.cons.inj cut
      obtain ⟨first, others⟩ := List.forall_mem_cons.mp readable
      exact .inr ⟨first, before, t, after, rfl, others, failed⟩
  · rintro (failed | ⟨first, before, t, after, rfl, others, failed⟩)
    · exact ⟨[], s, rest, rfl, fun _ member => absurd member List.not_mem_nil, failed⟩
    · exact ⟨s :: before, t, after, rfl, List.forall_mem_cons.mpr ⟨first, others⟩, failed⟩

theorem readSources_eq_error_iff {sources : List Source} {e : LoadError} :
    (readSources fs builtins sources).value = .error e ↔ FailsFirst fs builtins sources e := by
  induction sources with
  | nil => exact iff_of_false (fun failed => nomatch failed) (not_failsFirst_nil e)
  | cons s rest ih =>
    rw [readSources_cons, bind_eq_error_iff, failsFirst_cons, ← ih, ← readable_iff]
    simp only [map_eq_error_iff, exists_and_right]
    rfl

/-- Loading fails with the error of the first source that cannot be read. -/
theorem load_eq_error_iff {sources : List Source} {e : LoadError} :
    (load fs builtins sources).value = .error e ↔ FailsFirst fs builtins sources e := by
  rw [load_value, map_eq_error_iff, readSources_eq_error_iff]

/-- Loading fails exactly if there is a source that cannot be read. -/
theorem exists_load_error_iff {sources : List Source} :
    (∃ e, (load fs builtins sources).value = .error e) ↔ ∃ s ∈ sources, ¬ CanBeRead fs builtins s := by
  have loads : (∃ d, (load fs builtins sources).value = .ok d) ↔ ∀ s ∈ sources, CanBeRead fs builtins s := by
    simp only [exists_load_iff, readable_iff]
  rw [← not_iff_not, not_exists, not_exists]
  simp only [not_and, not_not]
  rw [← loads]
  cases (load fs builtins sources).value <;> simp

/-! ## The words of all sources -/

theorem mem_words_of_load {sources : List Source} {d : Dictionary}
    (loaded : (load fs builtins sources).value = .ok d) (form : String) :
    form ∈ d.words ↔ ∃ s ∈ sources, Offers fs builtins s form := by
  obtain ⟨lists, each, rfl⟩ := load_eq_ok_iff.mp loaded
  rw [Dictionary.mem_words_ofSources]
  clear loaded
  induction each with
  | nil => simp
  | cons gives _ ih =>
    rw [List.flatten_cons, List.exists_mem_cons_iff, ← ih, offers_iff gives]
    simp only [List.mem_append]
    grind

end

/-- A dictionary is loaded exactly if every source that is asked for can be read, and otherwise the error names the
first that cannot. It holds what its sources offer and nothing else, so files may be listed in any order and more than
once. -/
theorem load_whole_or_refused (fs : FileSystem) (builtins : Builtins) (useDefault : Bool) (default language : String)
    (files : List Path) :
    ((∃ e, (load fs builtins (sources useDefault default language files)).value = .error e) ↔
      ∃ s ∈ sources useDefault default language files, ¬ CanBeRead fs builtins s) ∧
    (∀ e, (load fs builtins (sources useDefault default language files)).value = .error e →
      ∃ before s after, sources useDefault default language files = before ++ s :: after ∧
        (∀ t ∈ before, CanBeRead fs builtins t) ∧ ¬ CanBeRead fs builtins s ∧ e.source = s.name) ∧
    (∀ d, (load fs builtins (sources useDefault default language files)).value = .ok d →
      ∀ form, form ∈ d.words ↔ ∃ s ∈ sources useDefault default language files, Offers fs builtins s form) ∧
    ∀ files', (∀ p, p ∈ files' ↔ p ∈ files) →
      ∀ d, (load fs builtins (sources useDefault default language files)).value = .ok d →
        ∃ d', (load fs builtins (sources useDefault default language files')).value = .ok d' ∧ d'.words = d.words := by
  refine ⟨exists_load_error_iff, ?_, fun d loaded => mem_words_of_load loaded, ?_⟩
  · intro e failed
    obtain ⟨before, s, after, cut, readable, failed⟩ := load_eq_error_iff.mp failed
    refine ⟨before, s, after, cut, readable, ?_, source_of_readSource failed⟩
    rintro readable
    obtain ⟨words, gives⟩ := readable_iff.mpr readable
    rw [Gives, failed] at gives
    cases gives
  · intro files' same d loaded
    have sourcesSame : ∀ s, s ∈ sources useDefault default language files' ↔
        s ∈ sources useDefault default language files := by
      intro s
      simp only [sources, List.mem_append, List.mem_map, same]
    have readable := exists_load_iff.mp ⟨d, loaded⟩
    obtain ⟨d', loaded'⟩ := exists_load_iff.mpr fun s member => readable s ((sourcesSame s).mp member)
    refine ⟨d', loaded', ?_⟩
    apply (words_ascending d'.known).eq_of_mem_iff (words_ascending d.known)
    intro form
    change form ∈ d'.words ↔ form ∈ d.words
    rw [mem_words_of_load loaded', mem_words_of_load loaded]
    simp only [sourcesSame]

end WordList

end SpellLint
