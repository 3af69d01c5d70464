import SpellLint.Proofs.Check.Monotone
import SpellLint.Proofs.Page.Asking
import SpellLint.Proofs.Text.Lines

/-! # Word lists in the sidebar

The sidebar proposes the word lists of the configuration, a line for each. What the user leaves there is read as lists
again, line by line: a path with a line boundary in it falls apart, and all other paths come back
(`pathsOf_joined_iff`).
-/

set_option autoImplicit false

namespace SpellLint

open SpellLint.Text

/-! ## Fields of records -/

namespace Value

theorem put_record (fields : List (String × Value)) (name : String) (field : Value) :
    (record fields).put name field =
      record (if fields.any (·.1 == name) then fields.map fun f => if f.1 == name then (name, field) else f
        else fields ++ [(name, field)]) := by
  change (if fields.any (·.1 == name) then _ else _) = _
  split <;> rfl

/-- Setting a field changes that field and no other. -/
theorem get_put (v : Value) (name : String) (field : Value) (other : String) :
    (v.put name field).get other = if name = other then field else v.get other := by
  cases v with
  | record fields =>
    rw [put_record]
    simp only [get]
    by_cases present : fields.any (·.1 == name) = true
    · have kept : ((fun f : String × Value => f.1 == other) ∘
          fun f : String × Value => if f.1 == name then (name, field) else f) = fun f => f.1 == other := by
        funext f
        by_cases named : f.1 = name <;> simp [named]
      rw [if_pos present, List.find?_map, kept]
      cases found : fields.find? (·.1 == other) with
      | none =>
        have apart : name ≠ other := by
          rintro rfl
          obtain ⟨f, member, named⟩ := List.any_eq_true.mp present
          exact List.find?_eq_none.mp found f member named
        simp [apart]
      | some f =>
        have same : f.1 = other := by simpa using List.find?_some found
        by_cases named : name = other
        · simp [named, same]
        · simp [named, same, Ne.symm named]
    · have absent : fields.find? (·.1 == name) = none := by
        rw [List.find?_eq_none]
        intro f member same
        exact present (List.any_eq_true.mpr ⟨f, member, same⟩)
      rw [if_neg present, List.find?_append]
      by_cases named : name = other
      · subst named
        simp [absent]
      · simp [named]
  | null | bool b | int n | decimal digits places | text s | list items =>
    by_cases named : name = other <;> simp [put, get, named]

end Value

namespace Page

/-! ## Paths that are written and read back -/

/-- There is no line boundary in a path. -/
def OnOneLine (path : String) : Prop := ∀ c ∈ path.toList, isLineBoundary c = false

theorem onOneLine_of_mem_pathsOf {entry path : String} (member : path ∈ pathsOf entry) : OnOneLine path := by
  obtain ⟨line, listed, member⟩ := List.mem_flatMap.mp member
  obtain ⟨piece, cut, rfl⟩ := List.mem_map.mp listed
  intro c inside
  have own := (isItem_of_mem_listed member).2 c inside
  rw [String.toList_ofList] at own
  exact not_isLineBoundary_of_mem_lines cut own

/-- Paths that are lines of a text are read back from it exactly if none of them has a line boundary. -/
theorem pathsOf_joined_iff {paths : List String} (all : ∀ path ∈ paths, IsItem ':' path) :
    pathsOf ("\n".intercalate paths) = paths ↔ ∀ path ∈ paths, OnOneLine path := by
  constructor
  · intro back path member
    rw [← back] at member
    exact onOneLine_of_mem_pathsOf member
  · intro lines
    have filled : ∀ piece ∈ paths.map String.toList, piece ≠ [] := by
      refine List.forall_mem_map.mpr fun path member blank => (all path member).filled ?_
      exact String.toList_eq_nil_iff.mp blank
    have free : ∀ piece ∈ paths.map String.toList, ∀ c ∈ piece, isLineBoundary c = false :=
      List.forall_mem_map.mpr lines
    have cut : splitLines ("\n".intercalate paths) = paths := by
      have feed : "\n".toList = ['\n'] := rfl
      rw [splitLines, String.toList_intercalate, feed, lines_intercalate filled free, List.map_map]
      exact (List.map_congr_left fun path _ => String.ofList_toList).trans (List.map_id paths)
    rw [pathsOf, cut]
    calc paths.flatMap Config.splitPaths = paths.flatMap fun path => [path] :=
          List.flatMap_congr fun path member => (all path member).listed_eq
      _ = paths := List.flatMap_singleton' paths

/-! ## The sidebar -/

/-- The label of the word lists. -/
def listsLabel : String := "Extra word lists (one path per line)"

/-- What the sidebar shows for a configuration and the word lists that it proposes. -/
def optionElements (config : Value) (lists : String) : List Element :=
  [.header "Dictionary", .checkbox "Use default dictionary" (isOn config "use_default_dictionary" true),
    .textArea listsLabel lists, .header "Checking", .checkbox "Public names only" (isOn config "exported_only" false),
    .checkbox "Check '#' comments" (isOn config "check_comments" false),
    .checkbox "Accept possessives" (isOn config "strip_possessives" false)]

/-- The configuration with what has been entered for it. -/
def chosenOptions (answers : Answers) (config : Value) (lists : String) : Value :=
  let ticked (label name : String) (standard : Bool) : Value :=
    (answers.lookup label).getD (.bool (isOn config name standard))
  let entered := ((answers.lookup listsLabel).getD (.text lists)).shown
  ((((config.put "use_default_dictionary" (ticked "Use default dictionary" "use_default_dictionary" true)).put
    "dictionaries" (.texts (pathsOf entered))).put
    "exported_only" (ticked "Public names only" "exported_only" false)).put
    "check_comments" (ticked "Check '#' comments" "check_comments" false)).put
    "strip_possessives" (ticked "Accept possessives" "strip_possessives" false)

theorem yields_askOptions (answers : Answers) {config : Value} {lists : String}
    (proposed : proposedLists config = .ok lists) :
    Yields answers (askOptions config) (chosenOptions answers config lists) (optionElements config lists) [] := by
  refine (yields_put _).bind ((yields_askTick _ _).bind ((yields_require id proposed).bind ?_))
  refine (yields_askLines _ _).bind ((yields_put _).bind ((yields_askTick _ _).bind ?_))
  exact (yields_askTick _ _).bind ((yields_askTick _ _).bind (yields_pure _))

theorem get_dictionaries_chosenOptions (answers : Answers) (config : Value) (lists : String) :
    (chosenOptions answers config lists).get "dictionaries" =
      .texts (pathsOf ((answers.lookup listsLabel).getD (.text lists)).shown) := by
  simp only [chosenOptions, Value.get_put]
  simp

theorem get_dictionaries_toValue (c : Config) : c.toValue.get "dictionaries" = .texts c.wordLists := by
  simp [Config.toValue, Value.get]

/-- The paths of a configuration are proposed as lines. -/
theorem proposedLists_toValue (c : Config) : proposedLists c.toValue = .ok ("\n".intercalate c.wordLists) := by
  rw [proposedLists, get_dictionaries_toValue]
  cases c.wordLists with
  | nil => rfl
  | cons path paths =>
    have texts : (Value.texts (path :: paths)).texts? = .ok (path :: paths) :=
      Result.textItems_texts 0 (path :: paths)
    rw [texts]
    rfl

/-- The word lists of an environment are the paths of its variable. -/
theorem wordLists_load {env : Environment} {value : String} (given : env.lookup "LEXICHECK_DICT" = some value) :
    (Config.load env).wordLists = Config.splitPaths value := by
  change ((Config.given env "LEXICHECK_DICT").map Config.splitPaths).getD [] = _
  rw [Config.given, given]
  by_cases empty : value = ""
  · rw [empty]
    rfl
  · rw [Option.filter_some, if_pos (decide_eq_true empty)]
    rfl

/-- The paths of the environment are proposed as lines. If they are left as proposed, they are still the word lists
exactly if none of them has a line boundary in it. Joined with colons they are always read as they were. -/
theorem lists_survive_iff {env : Environment} {value : String} (given : env.lookup "LEXICHECK_DICT" = some value)
    {answers : Answers}
    (left : ((answers.lookup listsLabel).getD (.text ("\n".intercalate (Config.splitPaths value)))).shown =
      "\n".intercalate (Config.splitPaths value)) (s : Shown) :
    ∃ config t, askOptions (Config.load env).toValue answers s = .ok (config, t) ∧
      .textArea listsLabel ("\n".intercalate (Config.splitPaths value)) ∈ t.elements ∧
      (config.get "dictionaries" = .texts (Config.splitPaths value) ↔
        ∀ path ∈ Config.splitPaths value, OnOneLine path) ∧
      Config.splitPaths (":".intercalate (Config.splitPaths value)) = Config.splitPaths value := by
  have items : ∀ path ∈ Config.splitPaths value, IsItem ':' path := fun path member => (isItem_of_mem_listed member).1
  have proposed := proposedLists_toValue (Config.load env)
  rw [wordLists_load given] at proposed
  refine ⟨_, _, yields_askOptions answers proposed s, ?_, ?_, listed_intercalate items⟩
  · simp [optionElements]
  · rw [get_dictionaries_chosenOptions, left, ← pathsOf_joined_iff items]
    exact ⟨fun same => Value.texts_injective same, fun same => congrArg Value.texts same⟩

/-- A path with a line separator in it is not what is left of it. -/
theorem lists_survive_iff_separated :
    [("LEXICHECK_DICT", "a: b\u2028c")].lookup "LEXICHECK_DICT" = some "a: b\u2028c" ∧
      ∃ config t, askOptions (Config.load [("LEXICHECK_DICT", "a: b\u2028c")]).toValue [] ⟨[], []⟩ = .ok (config, t) ∧
        config.get "dictionaries" ≠ .texts ["a", "b\u2028c"] := by
  have given : [("LEXICHECK_DICT", "a: b\u2028c")].lookup "LEXICHECK_DICT" = some "a: b\u2028c" := rfl
  have paths : Config.splitPaths "a: b\u2028c" = ["a", "b\u2028c"] := by decide +kernel
  refine ⟨given, ?_⟩
  obtain ⟨config, t, asked, -, survive, -⟩ := @lists_survive_iff _ _ given [] rfl ⟨[], []⟩
  rw [paths] at survive
  refine ⟨config, t, asked, fun same => ?_⟩
  have line := survive.mp same "b\u2028c" (by decide) '\u2028' (by decide)
  cases line

end Page

end SpellLint
