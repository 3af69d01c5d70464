import SpellLint.Proofs.Files.Endings
import SpellLint.Proofs.Files.Search
import SpellLint.Proofs.Scan.Reports

/-! # What a search finds and what a scan reads

A search selects files by the ending of their names, a scan picks the processor of a file by the extension of its
path. For endings that the processor supports the two agree on every name but one that is nothing else than such an
ending: a file of that name is found, and no processor is found for it.
-/

set_option autoImplicit false

namespace SpellLint

open SpellLint.Text FileSystem

/-! ## Names that are found -/

@[simp] theorem Path.name_child (folder : Path) (name : String) : (folder.child name).name = name := by
  simp [Path.name, Path.child]

namespace FileSystem

variable {fs : FileSystem} {s : Selection}

theorem takes_of_mem_filesIn {folder : Path} {entries : List (String × Entry)} {p : Path}
    (h : p ∈ fs.filesIn s folder entries) : s.takes p.name = true := by
  unfold filesIn at h
  obtain ⟨name, member, rfl⟩ := List.mem_map.mp h
  rw [List.mem_mergeSort] at member
  rw [Path.name_child]
  exact (List.mem_filter.mp member).2

/-- Whatever a search finds has a name that is wanted: the induction is on the size of the folder. -/
theorem takes_of_mem_filesUnder {folder : Path} {entries : List (String × Entry)} {p : Path}
    (h : p ∈ fs.filesUnder s folder (.folder entries)) : s.takes p.name = true := by
  rw [filesUnder_folder, List.mem_append, List.mem_flatMap] at h
  rcases h with own | ⟨x, member, below⟩
  · exact takes_of_mem_filesIn own
  · obtain ⟨inner, listed, -, files⟩ := mem_foldersUnder_iff.mp (List.mem_mergeSort.mp member)
    rw [files] at below
    exact takes_of_mem_filesUnder below
termination_by sizeOf entries
decreasing_by exact sizeOf_inner_lt listed

theorem takes_of_mem_search {root p : Path} {files : List Path} (found : fs.search s root = .ok files)
    (member : p ∈ files) : s.takes p.name = true := by
  cases resolved : fs.resolved root with
  | error e =>
    rw [search, resolved] at found
    cases found
  | ok folder =>
    cases entry : fs.entry folder with
    | error e =>
      rw [search, resolved] at found
      simp only [bind, Except.bind, entry] at found
      obtain rfl := Except.ok.inj found
      cases member
    | ok e =>
      rw [search_of_entry s resolved entry] at found
      obtain rfl := Except.ok.inj found
      cases e with
      | folder entries => exact takes_of_mem_filesUnder member
      | file content | link target => cases member

end FileSystem

/-! ## Names that are an ending -/

theorem lowerAfter_point (before back : List Char) :
    lowerAfter before ('.' :: back) = '.' :: lowerAfter ('.' :: before) back := by
  have point : lowerChar '.' = ['.'] := by decide +kernel
  rw [lowerAfter, if_neg (by decide), point]
  rfl

/-- Nothing stands in front of the last point of a name if its lower case form has no point but at the start. -/
theorem CutAtPoint.front_eq_nil {name : String} {front back : List Char} (cut : CutAtPoint name.toList front back)
    (once : '.' ∉ (lower name).toList.tail) : front = [] := by
  cases front with
  | nil => rfl
  | cons c front =>
    obtain ⟨forms, first, some, -⟩ := lowerAfter_cons [] c (front ++ '.' :: back)
    obtain ⟨more, rest⟩ := exists_lowerAfter_append [c] front ('.' :: back)
    obtain ⟨d, forms, rfl⟩ := List.exists_cons_of_ne_nil some
    rw [lower, String.toList_ofList, lowerChars, cut.1, List.cons_append, first, rest, lowerAfter_point] at once
    exact absurd (List.mem_append_right forms (List.mem_append_right more List.mem_cons_self)) once

theorem lower_mem_standardExtensions_iff {name : String} {front back : List Char}
    (cut : CutAtPoint name.toList front back) (h : ending name ∈ standardExtensions) :
    lower name ∈ standardExtensions ↔ front = [] := by
  constructor
  · intro bare
    have once : ∀ x ∈ standardExtensions, '.' ∉ x.toList.tail := by decide
    exact cut.front_eq_nil (once _ bare)
  · rintro rfl
    have whole : name = String.ofList ('.' :: back) := by
      rw [← String.ofList_toList (s := name), cut.1, List.nil_append]
    rwa [ending_of_cutAtPoint cut, ← whole] at h

/-- A name with a supported ending has that ending as its extension, unless it is nothing else. -/
theorem Path.extension_of_ending_mem {p : Path} (h : ending p.name ∈ standardExtensions) :
    p.extension = if lower p.name ∈ standardExtensions then "" else ending p.name := by
  have point : '.' ∈ p.name.toList := by
    by_contra noPoint
    rw [ending_of_noPoint noPoint] at h
    revert h
    decide
  obtain ⟨front, back, cut⟩ := exists_cutAtPoint point
  have long : back ≠ [] := by
    rintro rfl
    rw [ending_of_cutAtPoint cut] at h
    revert h
    decide +kernel
  have bare := lower_mem_standardExtensions_iff cut h
  rw [Path.extension, suffix_of_cutAtPoint cut]
  by_cases alone : front = []
  · rw [if_neg (fun inner => inner.1 alone), if_pos (bare.mpr alone), lower_empty]
  · rw [if_pos ⟨alone, long⟩, if_neg (bare.not.mpr alone), ending_of_cutAtPoint cut]

namespace Scan

/-! ## Processors of files that are found -/

/-- The spelling check signs its results. -/
theorem check_of_mem_run {settings : Settings} {artifact : Artifact} {r : Result}
    (h : r ∈ (SpellingCheck.run settings artifact).value) : r.check = SpellingCheck.name := by
  unfold SpellingCheck.run at h
  split at h
  · rw [List.mem_singleton.mp h]
  · rw [List.mem_singleton.mp h]
  · next view shared _ _ =>
    simp only [Logged.value_bind, Logged.value_pure] at h
    unfold SpellingCheck.report at h
    split at h
    · rw [List.mem_singleton.mp h]
    · obtain ⟨d, -, rfl⟩ := List.mem_map.mp h
      rfl

/-- A file is without a processor exactly if the processor does not support its extension. -/
theorem unsupported_iff (fs : FileSystem) (settings : Settings) (p : Path) :
    (∃ r ∈ (resultsFor fs (.standard settings) p).value, r.check = "No processor found") ↔
      (Plugins.standard settings).processors.claimant (·.supports) p.extension = none := by
  rw [resultsFor_standard, claimant_standard]
  unfold resultsFrom
  by_cases claimed : (Source.processor.supports.map lower).contains (lower p.extension)
  · rw [if_pos claimed, if_pos claimed]
    refine iff_of_false ?_ (by simp)
    rintro ⟨r, member, signed⟩
    cases content : fs.read p with
    | error e =>
      rw [content, List.mem_singleton] at member
      rw [member] at signed
      have other : "Artifact build failed" ≠ "No processor found" := by decide
      exact other signed
    | ok bytes =>
      rw [content] at member
      rw [check_of_mem_run member] at signed
      exact absurd signed (by decide)
  · rw [if_neg claimed, if_neg claimed]
    exact iff_of_true ⟨_, List.mem_cons_self, rfl⟩ rfl

/-- The search and the scan agree about the extension of a name unless its last point is its first or last character.
So a file that a search finds by an ending that is supported goes to the processor, unless its name is nothing else
than such an ending: then the two differ, and no processor is found. -/
theorem searched_routed_iff (fs : FileSystem) (settings : Settings) {s : Selection}
    (within : s.extensions ⊆ standardExtensions) {root : Path} {files : List Path}
    (found : fs.search s root = .ok files) :
    (∀ p : Path, p.extension = ending p.name ↔
      ∀ front back, CutAtPoint p.name.toList front back → front ≠ [] ∧ back ≠ []) ∧
    ∀ p ∈ files,
      (p.extension = ending p.name ↔ lower p.name ∉ standardExtensions) ∧
      ((Plugins.standard settings).processors.claimant (·.supports) p.extension = some Source.processor ↔
        lower p.name ∉ standardExtensions) ∧
      ((∃ r ∈ (resultsFor fs (.standard settings) p).value, r.check = "No processor found") ↔
        lower p.name ∈ standardExtensions) := by
  refine ⟨extension_eq_ending_iff, ?_⟩
  intro p member
  have taken := FileSystem.takes_of_mem_search found member
  have wanted : ending p.name ∈ standardExtensions := within (List.contains_iff_mem.mp taken)
  have supported : ∀ x ∈ standardExtensions, x ≠ "" ∧ (Source.processor.supports.map lower).contains (lower x) := by
    decide +kernel
  have bareless : (Source.processor.supports.map lower).contains (lower "") = false := by decide +kernel
  rw [unsupported_iff, claimant_standard, Path.extension_of_ending_mem wanted]
  by_cases bare : lower p.name ∈ standardExtensions
  · rw [if_pos bare, bareless]
    exact ⟨iff_of_false (supported _ wanted).1.symm (not_not.mpr bare), iff_of_false (by simp) (not_not.mpr bare),
      iff_of_true rfl bare⟩
  · rw [if_neg bare, if_pos (supported _ wanted).2]
    exact ⟨iff_of_true rfl bare, iff_of_true rfl bare, iff_of_false (by simp) bare⟩

theorem searched_routed_iff_package :
    ∃ files, packageTree.search (.of [] []) ⟨"/", []⟩ = .ok files ∧ pathTo ["pkg", "c.PYI"] ∈ files ∧
      (Selection.of [] []).extensions ⊆ standardExtensions ∧
      (Plugins.standard .initial).processors.claimant (·.supports) (pathTo ["pkg", "c.PYI"]).extension =
        some Source.processor := by
  have located : packageTree.locate .existing ⟨"/", []⟩ = .ok [] := by cbv
  have here : packageTree.top.under? [] = some (.folder _) := rfl
  have found := tidy_packageTree.search_eq (.of [] []) located here
  have within : (Selection.of [] []).extensions ⊆ standardExtensions := by decide +kernel
  have member : pathTo ["pkg", "c.PYI"] ∈ packageTree.filesUnder (.of [] []) (pathTo []) packageTree.top := by
    refine (tidy_packageTree.mem_filesUnder_iff here).mpr ⟨["pkg"], "c.PYI", rfl, ?_⟩
    refine (selected_cons_iff here).mpr ⟨by decide +kernel, (selected_nil_iff under?_package).mpr ?_⟩
    exact ⟨⟨.file [], by cbv⟩, by cbv, by decide +kernel⟩
  refine ⟨_, found, member, within, ?_⟩
  exact ((searched_routed_iff packageTree .initial within found).2 _ member).2.1.mpr (by decide +kernel)

/-- A file whose name is an ending. -/
def bareEnding : FileSystem where
  top := .folder [(".py", .file [])]
  here := []

/-- A file whose name is an ending is found, and no processor is found for it. -/
theorem bare_ending_unrouted :
    ∃ files, bareEnding.search (.of [] []) ⟨"/", []⟩ = .ok files ∧ pathTo [".py"] ∈ files ∧
      ending ".py" = ".py" ∧ (pathTo [".py"]).extension = "" ∧
      (resultsFor bareEnding (.standard .initial) (pathTo [".py"])).value = [unsupported (pathTo [".py"]) ""] := by
  have tidy : bareEnding.Tidy := tidy_of_isTidy (by decide +kernel)
  have located : bareEnding.locate .existing ⟨"/", []⟩ = .ok [] := by cbv
  have none : (pathTo [".py"]).extension = "" := by decide +kernel
  have unclaimed : (Source.processor.supports.map lower).contains (lower "") = false := by decide +kernel
  have here : bareEnding.top.under? [] = some (.folder _) := rfl
  refine ⟨_, tidy.search_eq (.of [] []) located here, ?_, by decide +kernel, none, ?_⟩
  · refine (tidy.mem_filesUnder_iff here).mpr ⟨[], ".py", rfl, (selected_nil_iff here).mpr ?_⟩
    exact ⟨⟨.file [], by cbv⟩, by cbv, by decide +kernel⟩
  · rw [resultsFor_standard]
    unfold resultsFrom
    rw [none, unclaimed]
    rfl

end Scan

end SpellLint
