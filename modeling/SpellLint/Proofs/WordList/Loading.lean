import Mathlib.Data.List.Forall2
import SpellLint.WordList

/-! # Loading a dictionary

A dictionary is loaded exactly if every source of it can be read (`exists_load_iff`), and then it holds the words of
all of them. What loading gives, and what it logs, is told by what reading the sources gives: nothing else is read
(`load_congr`).
-/

set_option autoImplicit false

namespace SpellLint.WordList

/-! ## Results in sequence -/

theorem map_eq_ok_iff {ε α β : Type} {f : α → β} {x : Except ε α} {b : β} :
    x.map f = .ok b ↔ ∃ a, x = .ok a ∧ f a = b := by
  cases x <;> simp [Except.map]

theorem bind_eq_ok_iff {ε α β : Type} {f : α → Except ε β} {x : Except ε α} {b : β} :
    x.bind f = .ok b ↔ ∃ a, x = .ok a ∧ f a = .ok b := by
  cases x <;> simp [Except.bind]

theorem map_eq_error_iff {ε α β : Type} {f : α → β} {x : Except ε α} {e : ε} :
    x.map f = .error e ↔ x = .error e := by
  cases x <;> simp [Except.map]

theorem bind_eq_error_iff {ε α β : Type} {f : α → Except ε β} {x : Except ε α} {e : ε} :
    x.bind f = .error e ↔ x = .error e ∨ ∃ a, x = .ok a ∧ f a = .error e := by
  cases x <;> simp [Except.bind]

/-! ## Reading all sources -/

variable {fs fs' : FileSystem} {builtins builtins' : Builtins}

/-- A source is read and has these words. -/
def Gives (fs : FileSystem) (builtins : Builtins) (s : Source) (words : List String) : Prop :=
  (readSource fs builtins s).value = .ok words

/-- A source can be read. -/
def Readable (fs : FileSystem) (builtins : Builtins) (s : Source) : Prop := ∃ words, Gives fs builtins s words

theorem readSources_cons (s : Source) (rest : List Source) :
    (readSources fs builtins (s :: rest)).value =
      (readSource fs builtins s).value.bind fun words => (readSources fs builtins rest).value.map (words :: ·) := by
  rw [readSources, Logged.value_bind]
  cases (readSource fs builtins s).value <;> rfl

/-- Sources are read if each of them is. -/
theorem readSources_eq_ok_iff {sources : List Source} {lists : List (List String)} :
    (readSources fs builtins sources).value = .ok lists ↔ List.Forall₂ (Gives fs builtins) sources lists := by
  induction sources generalizing lists with
  | nil =>
    rw [List.forall₂_nil_left_iff]
    exact ⟨fun h => (Except.ok.inj h).symm, fun h => congrArg Except.ok h.symm⟩
  | cons s rest ih =>
    rw [readSources_cons, bind_eq_ok_iff, List.forall₂_cons_left_iff]
    simp only [map_eq_ok_iff, ih]
    constructor
    · rintro ⟨words, first, behind, others, rfl⟩
      exact ⟨words, behind, first, others, rfl⟩
    · rintro ⟨words, behind, first, others, rfl⟩
      exact ⟨words, first, behind, others, rfl⟩

theorem exists_forall₂_gives {sources : List Source} (readable : ∀ s ∈ sources, Readable fs builtins s) :
    ∃ lists, List.Forall₂ (Gives fs builtins) sources lists := by
  induction sources with
  | nil => exact ⟨[], .nil⟩
  | cons s rest ih =>
    obtain ⟨words, first⟩ := readable s List.mem_cons_self
    obtain ⟨lists, others⟩ := ih fun t member => readable t (List.mem_cons_of_mem s member)
    exact ⟨words :: lists, .cons first others⟩

theorem readable_of_forall₂ {sources : List Source} {lists : List (List String)}
    (all : List.Forall₂ (Gives fs builtins) sources lists) : ∀ s ∈ sources, Readable fs builtins s := by
  induction all with
  | nil => exact fun _ member => absurd member List.not_mem_nil
  | cons first _ ih => exact List.forall_mem_cons.mpr ⟨⟨_, first⟩, ih⟩

theorem readSources_congr {sources : List Source}
    (same : ∀ s ∈ sources, readSource fs' builtins' s = readSource fs builtins s) :
    readSources fs' builtins' sources = readSources fs builtins sources := by
  induction sources with
  | nil => rfl
  | cons s rest ih =>
    have others := ih fun t member => same t (List.mem_cons_of_mem s member)
    rw [readSources, readSources, same s List.mem_cons_self, others]

/-! ## Loading -/

theorem load_value (sources : List Source) :
    (load fs builtins sources).value = (readSources fs builtins sources).value.map Dictionary.ofSources := by
  unfold load
  rw [Logged.value_bind]
  cases (readSources fs builtins sources).value <;> rfl

/-- A dictionary that is loaded holds the words of its sources. -/
theorem load_eq_ok_iff {sources : List Source} {d : Dictionary} :
    (load fs builtins sources).value = .ok d ↔
      ∃ lists, List.Forall₂ (Gives fs builtins) sources lists ∧ Dictionary.ofSources lists = d := by
  rw [load_value, map_eq_ok_iff]
  simp only [readSources_eq_ok_iff]

/-- A dictionary is loaded exactly if all of its sources can be read. -/
theorem exists_load_iff {sources : List Source} :
    (∃ d, (load fs builtins sources).value = .ok d) ↔ ∀ s ∈ sources, Readable fs builtins s := by
  simp only [load_eq_ok_iff]
  constructor
  · rintro ⟨_, lists, all, -⟩
    exact readable_of_forall₂ all
  · intro readable
    obtain ⟨lists, all⟩ := exists_forall₂_gives readable
    exact ⟨_, lists, all, rfl⟩

/-- Loading reads its sources and nothing else. -/
theorem load_congr {sources : List Source}
    (same : ∀ s ∈ sources, readSource fs' builtins' s = readSource fs builtins s) :
    load fs' builtins' sources = load fs builtins sources := by
  unfold load
  rw [readSources_congr same]

end SpellLint.WordList
