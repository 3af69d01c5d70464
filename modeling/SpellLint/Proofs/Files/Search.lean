import SpellLint.Proofs.Distinct
import SpellLint.Proofs.Files.Endings
import SpellLint.Proofs.Files.Entries
import SpellLint.Proofs.Findings.Order

/-! # What a search finds

A search finds the files whose ending is wanted and to which no ignored folder and no link to a folder leads, each of
them once. It lists the files of a folder before the files of the folders in it, each in the order of their names. The
files and their order are told by the tree alone (`Selected`, `Before`), and the search follows them folder by folder
(`mem_filesUnder_iff`, `pairwise_filesUnder`).
-/

set_option autoImplicit false

namespace SpellLint

open SpellLint.Text

/-! ## What is wanted -/

theorem mem_normalExtensions {extensions : List String} {x : String} :
    x ∈ normalExtensions extensions ↔ ∃ e ∈ extensions, normalExtension e = some x := by
  unfold normalExtensions
  rw [Std.TreeSet.mem_toList, mem_foldl_insert, List.mem_filterMap]
  simp

theorem mem_normalNames {names : List String} {x : String} :
    x ∈ normalNames names ↔ ∃ n ∈ names, strip n ≠ "" ∧ lower n = x := by
  unfold normalNames
  rw [Std.TreeSet.mem_toList, mem_foldl_insert, List.mem_map]
  simp [and_assoc]

theorem normalExtension_ne_empty {extension x : String} (h : normalExtension extension = some x) : x ≠ "" := by
  unfold normalExtension at h
  simp only [Option.ite_none_left_eq_some, Option.some.injEq] at h
  obtain ⟨nonblank, rfl⟩ := h
  split
  · exact nonblank
  · intro empty
    simp at empty

/-- A name ends in one of the wanted extensions; the standard ones are wanted unless others are given. -/
def WantedEnding (extensions : List String) (name : String) : Prop :=
  ∃ e ∈ Selection.orStandard standardExtensions extensions, ∃ x, normalExtension e = some x ∧ EndsIn name x

/-- A lower case name is that of an ignored folder; the standard ones are ignored unless others are given, and blank
names are passed over. -/
def Ignored (ignored : List String) (name : String) : Prop :=
  ∃ n ∈ Selection.orStandard standardIgnored ignored, strip n ≠ "" ∧ lower n = name

theorem takes_iff {extensions ignored : List String} {name : String} :
    (Selection.of extensions ignored).takes name = true ↔ WantedEnding extensions name := by
  unfold Selection.takes Selection.of WantedEnding
  rw [List.contains_iff_mem, mem_normalExtensions]
  constructor
  · rintro ⟨e, he, normal⟩
    exact ⟨e, he, _, normal, (endsIn_iff (normalExtension_ne_empty normal)).mpr rfl⟩
  · rintro ⟨e, he, x, normal, ends⟩
    rw [(endsIn_iff (normalExtension_ne_empty normal)).mp ends]
    exact ⟨e, he, normal⟩

theorem leavesOut_iff {extensions ignored : List String} {name : String} :
    (Selection.of extensions ignored).leavesOut name = true ↔ Ignored ignored (lower name) := by
  unfold Selection.leavesOut Selection.of Ignored
  rw [List.contains_iff_mem, mem_normalNames]

/-! ## The order of files -/

/-- The order of files by their names from the root: at the first names that differ, a file comes before what is in a
folder, and otherwise the lesser name comes first. -/
inductive Before : List String → List String → Prop
  | files {a b : String} (less : a < b) : Before [a] [b]
  | fileFirst (a folder b : String) (below : List String) : Before [a] (folder :: b :: below)
  | folders {c d : String} (less : c < d) (a b : String) (as bs : List String) : Before (c :: a :: as) (d :: b :: bs)
  | inside (folder : String) {as bs : List String} (below : Before as bs) : Before (folder :: as) (folder :: bs)

namespace Before

theorem irrefl (as : List String) : ¬ Before as as := by
  intro h
  induction as with
  | nil => cases h
  | cons a as ih =>
    cases h with
    | files less => exact lt_irrefl a less
    | folders less => exact lt_irrefl a less
    | inside _ below => exact ih below

theorem append (front : List String) {as bs : List String} (h : Before as bs) : Before (front ++ as) (front ++ bs) := by
  induction front with
  | nil => exact h
  | cons folder front ih => exact .inside folder ih

/-- A file comes before everything in the folders beside it. -/
theorem file (front : List String) (a folder : String) (dirs : List String) (name : String) :
    Before (front ++ [a]) (front ++ (folder :: (dirs ++ [name]))) := by
  apply append
  cases dirs with
  | nil => exact .fileFirst a folder name []
  | cons b dirs => exact .fileFirst a folder b (dirs ++ [name])

/-- What is in a folder comes before what is in a folder of a greater name. -/
theorem folder (front : List String) {c d : String} (less : c < d) (dirs dirs' : List String) (name name' : String) :
    Before (front ++ (c :: (dirs ++ [name]))) (front ++ (d :: (dirs' ++ [name']))) := by
  apply append
  cases dirs with
  | nil =>
    cases dirs' with
    | nil => exact .folders less name name' [] []
    | cons b dirs' => exact .folders less name b [] (dirs' ++ [name'])
  | cons a dirs =>
    cases dirs' with
    | nil => exact .folders less a name' (dirs ++ [name]) []
    | cons b dirs' => exact .folders less a b (dirs ++ [name]) (dirs' ++ [name'])

end Before

/-! ## The files under a folder -/

namespace FileSystem

/-- A file is found in a folder under some folders in it: they are folders themselves and no links, none of them is
ignored, and the file is an entry that does not lead to a folder and whose name is wanted. -/
structure Selected (fs : FileSystem) (wanted ignored : String → Prop) (place dirs : List String) (name : String) :
    Prop where
  folders : ∀ i ≤ dirs.length, ∃ entries, fs.top.under? (place ++ dirs.take i) = some (.folder entries)
  kept : ∀ d ∈ dirs, ¬ ignored (lower d)
  listed : ∃ e, fs.top.under? (place ++ dirs ++ [name]) = some e
  noFolder : fs.isFolder (pathTo (place ++ dirs ++ [name])) = false
  wanted : wanted name

section

variable {fs : FileSystem} {wanted ignored : String → Prop} {place dirs : List String} {name : String}

theorem selected_nil_iff {entries : List (String × Entry)} (here : fs.top.under? place = some (.folder entries)) :
    fs.Selected wanted ignored place [] name ↔
      (∃ e, fs.top.under? (place ++ [name]) = some e) ∧ fs.isFolder (pathTo (place ++ [name])) = false ∧
        wanted name := by
  constructor
  · intro ⟨_, _, listed, noFolder, wanted⟩
    rw [List.append_nil] at listed noFolder
    exact ⟨listed, noFolder, wanted⟩
  · intro ⟨listed, noFolder, wanted⟩
    refine ⟨?_, fun d hd => absurd hd List.not_mem_nil, ?_, ?_, wanted⟩
    · intro i _
      exact ⟨entries, by rw [List.take_nil, List.append_nil, here]⟩
    · rwa [List.append_nil]
    · rwa [List.append_nil]

theorem selected_cons_iff {entries : List (String × Entry)} (here : fs.top.under? place = some (.folder entries))
    {d : String} :
    fs.Selected wanted ignored place (d :: dirs) name ↔
      ¬ ignored (lower d) ∧ fs.Selected wanted ignored (place ++ [d]) dirs name := by
  constructor
  · intro ⟨folders, kept, listed, noFolder, wanted⟩
    rw [List.append_cons place] at listed noFolder
    refine ⟨kept d List.mem_cons_self, ?_, fun x hx => kept x (List.mem_cons_of_mem d hx), listed, noFolder, wanted⟩
    intro i le
    have folder := folders (i + 1) (Nat.succ_le_succ le)
    rwa [List.take_succ_cons, List.append_cons] at folder
  · intro ⟨first, folders, kept, listed, noFolder, wanted⟩
    refine ⟨?_, ?_, ?_, ?_, wanted⟩
    · intro i le
      cases i with
      | zero => exact ⟨entries, by rw [List.take_zero, List.append_nil, here]⟩
      | succ i =>
        rw [List.take_succ_cons, List.append_cons]
        exact folders i (Nat.le_of_succ_le_succ le)
    · intro x hx
      rcases List.mem_cons.mp hx with rfl | hx
      · exact first
      · exact kept x hx
    · rwa [List.append_cons place]
    · rwa [List.append_cons place]

end

section

variable {fs : FileSystem} {s : Selection} {place : List String} {entries : List (String × Entry)} {p : Path}

/-- An entry counts as a file if its path does not lead to a folder. -/
theorem Tidy.countsAsFile_eq (tidy : fs.Tidy) {name : String} {e : Entry}
    (listed : fs.top.under? (place ++ [name]) = some e) :
    fs.countsAsFile (pathTo place) (name, e) = !fs.isFolder (pathTo (place ++ [name])) := by
  cases e with
  | link target => rfl
  | file content =>
    have other := (tidy.isFolder_pathTo listed (by simp)).not.mpr (by simp)
    rw [Bool.eq_false_iff.mpr other]
    rfl
  | folder entries =>
    rw [(tidy.isFolder_pathTo listed (by simp)).mpr ⟨entries, rfl⟩]
    rfl

theorem Tidy.mem_filesIn_iff (tidy : fs.Tidy) (here : fs.top.under? place = some (.folder entries)) :
    p ∈ fs.filesIn s (pathTo place) entries ↔
      ∃ name, p = pathTo (place ++ [name]) ∧ (∃ e, fs.top.under? (place ++ [name]) = some e) ∧
        fs.isFolder (pathTo (place ++ [name])) = false ∧ s.takes name = true := by
  unfold filesIn
  simp only [List.mem_map, List.mem_mergeSort, List.mem_filter]
  constructor
  · rintro ⟨_, ⟨⟨⟨name, e⟩, ⟨member, counts⟩, rfl⟩, wanted⟩, rfl⟩
    have listed := (tidy.under?_iff here).mpr member
    rw [tidy.countsAsFile_eq listed, Bool.not_eq_true'] at counts
    exact ⟨name, rfl, ⟨e, listed⟩, counts, wanted⟩
  · rintro ⟨name, rfl, ⟨e, listed⟩, noFolder, wanted⟩
    refine ⟨name, ⟨⟨(name, e), ⟨(tidy.under?_iff here).mp listed, ?_⟩, rfl⟩, wanted⟩, rfl⟩
    rw [tidy.countsAsFile_eq listed, noFolder]
    rfl

theorem Tidy.pairwise_filesIn (tidy : fs.Tidy) (here : fs.top.under? place = some (.folder entries)) :
    (fs.filesIn s (pathTo place) entries).Pairwise fun p q => Before p.parts q.parts := by
  have distinct : (((entries.filter (fs.countsAsFile (pathTo place))).map (·.1)).filter s.takes).Nodup :=
    ((tidy place entries here).1.sublist (List.filter_sublist.map _)).filter _
  unfold filesIn
  rw [List.pairwise_map]
  refine (pairwise_mergeSort_key id (by rwa [List.map_id])).imp ?_
  intro a b less
  exact (Before.files less).append place

theorem mem_foldersUnder_iff {folder : Path} {x : String × List Path} :
    x ∈ foldersUnder fs s folder entries ↔
      ∃ inner, (x.1, Entry.folder inner) ∈ entries ∧ s.leavesOut x.1 = false ∧
        x.2 = fs.filesUnder s (folder.child x.1) (.folder inner) := by
  induction entries with
  | nil => simp [foldersUnder]
  | cons entry entries ih =>
    obtain ⟨name, e⟩ := entry
    cases e with
    | file content => simp [foldersUnder, ih]
    | link target => simp [foldersUnder, ih]
    | folder inner =>
      rw [foldersUnder]
      by_cases out : s.leavesOut name = true
      · rw [if_pos out, ih]
        constructor
        · rintro ⟨inner, member, kept, files⟩
          exact ⟨inner, List.mem_cons_of_mem _ member, kept, files⟩
        · rintro ⟨inner', member, kept, files⟩
          rcases List.mem_cons.mp member with same | member
          · rw [(Prod.mk.inj same).1, out] at kept
            cases kept
          · exact ⟨inner', member, kept, files⟩
      · rw [if_neg out, List.mem_cons, ih]
        constructor
        · rintro (rfl | ⟨inner, member, kept, files⟩)
          · exact ⟨inner, List.mem_cons_self, Bool.eq_false_iff.mpr out, rfl⟩
          · exact ⟨inner, List.mem_cons_of_mem _ member, kept, files⟩
        · rintro ⟨inner', member, kept, files⟩
          rcases List.mem_cons.mp member with same | member
          · obtain ⟨name', files'⟩ := x
            obtain ⟨rfl, sameFolder⟩ := Prod.mk.inj same
            obtain rfl := Entry.folder.inj sameFolder
            exact .inl (congrArg _ files)
          · exact .inr ⟨inner', member, kept, files⟩

theorem names_foldersUnder_sublist (folder : Path) :
    ((foldersUnder fs s folder entries).map (·.1)).Sublist (entries.map (·.1)) := by
  induction entries with
  | nil => simp [foldersUnder]
  | cons entry entries ih =>
    obtain ⟨name, e⟩ := entry
    cases e with
    | file content => exact ih.cons name
    | link target => exact ih.cons name
    | folder inner =>
      rw [foldersUnder]
      split
      · exact ih.cons name
      · exact ih.cons_cons name

theorem sizeOf_inner_lt {name : String} {inner : List (String × Entry)} (h : (name, Entry.folder inner) ∈ entries) :
    sizeOf inner < sizeOf entries := by
  have smaller := List.sizeOf_lt_of_mem h
  rw [Prod.mk.sizeOf_spec, Entry.folder.sizeOf_spec] at smaller
  omega

theorem filesUnder_folder (fs : FileSystem) (s : Selection) (folder : Path) (entries : List (String × Entry)) :
    fs.filesUnder s folder (.folder entries) = fs.filesIn s folder entries ++
      ((foldersUnder fs s folder entries).mergeSort fun a b => a.1 ≤ b.1).flatMap (·.2) := by
  rw [filesUnder]

/-- What is found in a folder is told by the tree: the induction is on the size of the folder. -/
theorem Tidy.mem_filesUnder_iff (tidy : fs.Tidy) {place : List String} {entries : List (String × Entry)} {p : Path}
    (here : fs.top.under? place = some (.folder entries)) :
    p ∈ fs.filesUnder s (pathTo place) (.folder entries) ↔
      ∃ dirs name, p = pathTo (place ++ dirs ++ [name]) ∧
        fs.Selected (s.takes · = true) (s.ignored.contains · = true) place dirs name := by
  have below {name : String} {inner : List (String × Entry)} (member : (name, Entry.folder inner) ∈ entries) :=
    tidy.mem_filesUnder_iff (p := p) ((tidy.under?_iff here).mpr member)
  rw [filesUnder_folder, List.mem_append, List.mem_flatMap, tidy.mem_filesIn_iff here]
  constructor
  · rintro (⟨name, rfl, listed⟩ | ⟨x, member, found⟩)
    · exact ⟨[], name, by rw [List.append_nil], (selected_nil_iff here).mpr listed⟩
    · obtain ⟨inner, member, kept, files⟩ := mem_foldersUnder_iff.mp (List.mem_mergeSort.mp member)
      rw [files] at found
      obtain ⟨dirs, name, rfl, selected⟩ := (below member).mp found
      refine ⟨x.1 :: dirs, name, ?_, (selected_cons_iff here).mpr ⟨?_, selected⟩⟩
      · rw [List.append_cons place x.1 dirs]
      · exact Bool.eq_false_iff.mp kept
  · rintro ⟨dirs, name, rfl, selected⟩
    cases dirs with
    | nil => exact .inl ⟨name, by rw [List.append_nil], (selected_nil_iff here).mp selected⟩
    | cons d dirs =>
      obtain ⟨inner, folder⟩ := selected.folders 1 (Nat.succ_le_succ (Nat.zero_le _))
      obtain ⟨kept, selected⟩ := (selected_cons_iff here).mp selected
      have member : (d, Entry.folder inner) ∈ entries := (tidy.under?_iff here).mp folder
      refine .inr ⟨(d, fs.filesUnder s (pathTo (place ++ [d])) (.folder inner)), ?_, (below member).mpr ?_⟩
      · exact List.mem_mergeSort.mpr (mem_foldersUnder_iff.mpr ⟨inner, member, Bool.eq_false_iff.mpr kept, rfl⟩)
      · exact ⟨dirs, name, by rw [List.append_cons place], selected⟩
termination_by sizeOf entries
decreasing_by exact sizeOf_inner_lt member

/-- What is found in a folder stands in order. -/
theorem Tidy.pairwise_filesUnder (tidy : fs.Tidy) {place : List String} {entries : List (String × Entry)}
    (here : fs.top.under? place = some (.folder entries)) :
    (fs.filesUnder s (pathTo place) (.folder entries)).Pairwise fun p q => Before p.parts q.parts := by
  have distinct : ((foldersUnder fs s (pathTo place) entries).map (·.1)).Nodup :=
    (tidy place entries here).1.sublist (names_foldersUnder_sublist _)
  -- the files of a folder beside others all stand in that folder
  have within {x : String × List Path} (hx : x ∈ foldersUnder fs s (pathTo place) entries) {p : Path} (hp : p ∈ x.2) :
      ∃ dirs name, p.parts = place ++ (x.1 :: (dirs ++ [name])) := by
    obtain ⟨inner, member, _, files⟩ := mem_foldersUnder_iff.mp hx
    rw [files] at hp
    obtain ⟨dirs, name, rfl, _⟩ := (tidy.mem_filesUnder_iff ((tidy.under?_iff here).mpr member)).mp hp
    exact ⟨dirs, name, by rw [pathTo, ← List.append_cons, List.append_assoc, List.cons_append]⟩
  rw [filesUnder_folder, List.pairwise_append, List.pairwise_flatMap]
  refine ⟨tidy.pairwise_filesIn here, ⟨?_, ?_⟩, ?_⟩
  · intro x hx
    obtain ⟨inner, member, _, files⟩ := mem_foldersUnder_iff.mp (List.mem_mergeSort.mp hx)
    rw [files]
    exact tidy.pairwise_filesUnder ((tidy.under?_iff here).mpr member)
  · refine (pairwise_mergeSort_key Prod.fst distinct).imp_of_mem ?_
    intro x y hx hy less p hp q hq
    obtain ⟨dirs, name, pParts⟩ := within (List.mem_mergeSort.mp hx) hp
    obtain ⟨dirs', name', qParts⟩ := within (List.mem_mergeSort.mp hy) hq
    rw [pParts, qParts]
    exact .folder place less dirs dirs' name name'
  · intro p hp q hq
    obtain ⟨a, rfl, _⟩ := (tidy.mem_filesIn_iff here).mp hp
    obtain ⟨x, hx, hq⟩ := List.mem_flatMap.mp hq
    obtain ⟨dirs, name, qParts⟩ := within (List.mem_mergeSort.mp hx) hq
    rw [qParts]
    exact .file place a x.1 dirs name
termination_by sizeOf entries
decreasing_by exact sizeOf_inner_lt member

end

/-! ## A search -/

section

variable {fs : FileSystem}

theorem resolved_of_locate {root : Path} {place : List String} (h : fs.locate .existing root = .ok place) :
    fs.resolved root = .ok (pathTo place) := by
  rw [resolved, resolve_of_locate h]
  rfl

theorem search_of_entry (s : Selection) {root folder : Path} {e : Entry} (resolved : fs.resolved root = .ok folder)
    (found : fs.entry folder = .ok e) : fs.search s root = .ok (fs.filesUnder s folder e) := by
  unfold search
  rw [resolved]
  simp [bind, Except.bind, pure, Except.pure, found]

theorem Tidy.search_eq (tidy : fs.Tidy) (s : Selection) {root : Path} {place : List String}
    {entries : List (String × Entry)} (located : fs.locate .existing root = .ok place)
    (here : fs.top.under? place = some (.folder entries)) :
    fs.search s root = .ok (fs.filesUnder s (pathTo place) (.folder entries)) :=
  search_of_entry s (resolved_of_locate located) (tidy.entry_pathTo here (by simp))

theorem Selected.congr {wanted wanted' ignored ignored' : String → Prop} {place dirs : List String} {name : String}
    (sameWanted : ∀ x, wanted x ↔ wanted' x) (sameIgnored : ∀ d, ignored (lower d) ↔ ignored' (lower d)) :
    fs.Selected wanted ignored place dirs name ↔ fs.Selected wanted' ignored' place dirs name := by
  constructor
  · intro ⟨folders, kept, listed, noFolder, named⟩
    exact ⟨folders, fun d hd => (sameIgnored d).not.mp (kept d hd), listed, noFolder, (sameWanted name).mp named⟩
  · intro ⟨folders, kept, listed, noFolder, named⟩
    exact ⟨folders, fun d hd => (sameIgnored d).not.mpr (kept d hd), listed, noFolder, (sameWanted name).mpr named⟩

/-- A search from a folder finds every selected file once, and nothing else, in the order of files. -/
theorem search_finds_selected (tidy : fs.Tidy) {root : Path} (folder : fs.isFolder root = true)
    (extensions ignored : List String) :
    ∃ place files, fs.resolved root = .ok (pathTo place) ∧
      fs.search (.of extensions ignored) root = .ok files ∧ files.Nodup ∧
      (∀ p, p ∈ files ↔ ∃ dirs name, p = pathTo (place ++ dirs ++ [name]) ∧
        fs.Selected (WantedEnding extensions) (Ignored ignored) place dirs name) ∧
      files.Pairwise fun p q => Before p.parts q.parts := by
  obtain ⟨place, entries, located, here⟩ := locate_of_isFolder folder
  have ordered := tidy.pairwise_filesUnder (s := .of extensions ignored) here
  refine ⟨place, _, resolved_of_locate located, tidy.search_eq _ located here, ?_, ?_, ordered⟩
  · refine ordered.imp ?_
    rintro p q before rfl
    exact before.irrefl
  · intro p
    rw [tidy.mem_filesUnder_iff here]
    refine exists_congr fun dirs => exists_congr fun name => and_congr_right fun _ => ?_
    exact Selected.congr (fun _ => takes_iff) (fun _ => leavesOut_iff)

end

/-- A folder with a package, a folder that is ignored, and two links: one to nothing, one to the package. -/
def packageTree : FileSystem where
  top := .folder [
    ("pkg", .folder [("c.PYI", .file []), ("a.txt", .file [])]), ("venv", .folder [("x.py", .file [])]),
    ("b.py", .file []), ("a.py", .link ⟨"", ["gone"]⟩), ("all.py", .link ⟨"", ["pkg"]⟩)]
  here := []

theorem tidy_packageTree : packageTree.Tidy := tidy_of_isTidy (by decide +kernel)

theorem under?_package :
    packageTree.top.under? ["pkg"] = some (.folder [("c.PYI", .file []), ("a.txt", .file [])]) := by cbv

theorem search_finds_selected_package :
    packageTree.Tidy ∧ packageTree.isFolder ⟨"/", []⟩ = true ∧
      ∃ files, packageTree.search (.of [] []) ⟨"/", []⟩ = .ok files ∧ pathTo ["pkg", "c.PYI"] ∈ files ∧
        pathTo ["all.py"] ∉ files := by
  have folder : packageTree.isFolder ⟨"/", []⟩ = true := by cbv
  obtain ⟨place, files, resolved, found, -, iff, -⟩ := search_finds_selected tidy_packageTree folder [] []
  have root : packageTree.resolved ⟨"/", []⟩ = .ok (pathTo []) := by cbv
  obtain rfl : [] = place := by
    rw [root] at resolved
    exact (Path.mk.inj (Except.ok.inj resolved)).2
  have top : packageTree.top.under? [] = some (.folder _) := rfl
  have kept : ¬ (Selection.of [] []).leavesOut "pkg" = true := by decide +kernel
  have taken : (Selection.of [] []).takes "c.PYI" = true := by decide +kernel
  refine ⟨tidy_packageTree, folder, files, found, (iff _).mpr ⟨["pkg"], "c.PYI", rfl, ?_⟩, ?_⟩
  · refine (selected_cons_iff top).mpr ⟨leavesOut_iff.not.mp kept, (selected_nil_iff under?_package).mpr ?_⟩
    exact ⟨⟨.file [], by cbv⟩, by cbv, takes_iff.mp taken⟩
  · intro member
    obtain ⟨dirs, name, same, selected⟩ := (iff _).mp member
    have leads : packageTree.isFolder (pathTo ["all.py"]) = true := by cbv
    rw [same, selected.noFolder] at leads
    cases leads

/-! ## Blank names -/

/-- A lower case name is that of an ignored folder, blank names included. -/
def LiterallyIgnored (ignored : List String) (name : String) : Prop :=
  ∃ n ∈ Selection.orStandard standardIgnored ignored, lower n = name

/-- A folder whose name is a blank. -/
def blankFolder : FileSystem where
  top := .folder [(" ", .folder [("a.py", .file [])])]
  here := []

/-- A folder with a blank name cannot be ignored. -/
theorem blank_folder_searched :
    ∃ files, blankFolder.search (.of [] [" "]) ⟨"/", []⟩ = .ok files ∧ pathTo [" ", "a.py"] ∈ files ∧
      ¬ ∃ dirs name, pathTo [" ", "a.py"] = pathTo (dirs ++ [name]) ∧
        blankFolder.Selected (WantedEnding []) (LiterallyIgnored [" "]) [] dirs name := by
  have tidy : blankFolder.Tidy := tidy_of_isTidy (by decide +kernel)
  have located : blankFolder.locate .existing ⟨"/", []⟩ = .ok [] := by cbv
  have here : blankFolder.top.under? [] = some (.folder _) := rfl
  have blank : blankFolder.top.under? [" "] = some (.folder [("a.py", .file [])]) := by cbv
  refine ⟨_, tidy.search_eq _ located here, ?_, ?_⟩
  · refine (tidy.mem_filesUnder_iff here).mpr ⟨[" "], "a.py", rfl, (selected_cons_iff here).mpr ?_⟩
    exact ⟨by decide +kernel, (selected_nil_iff blank).mpr ⟨⟨.file [], by cbv⟩, by cbv, by decide +kernel⟩⟩
  · rintro ⟨dirs, name, same, selected⟩
    have parts : [" "] ++ ["a.py"] = dirs ++ [name] := (Path.mk.inj same).2
    obtain rfl : [" "] = dirs := (List.append_inj' parts rfl).1
    exact selected.kept " " List.mem_cons_self ⟨" ", List.mem_cons_self, rfl⟩

end FileSystem

end SpellLint
