import Mathlib.Data.List.Pairwise
import SpellLint.Proofs.Files.Search

/-! # One file under several names

An input that is named is resolved, and a resolved path stands for itself. A file that is found in a folder keeps its
own name, and it stands for itself unless it is a link. So the files that inputs stand for are distinct paths, and two
of them can only be one file if one of them is a link that a search has found.
-/

set_option autoImplicit false

namespace SpellLint.FileSystem

variable {fs : FileSystem}

/-! ## Places that no link leads through -/

/-- No name of a place leads upwards, and no entry on the way to it is a link. -/
structure LinkFree (fs : FileSystem) (place : List String) : Prop where
  noUps : ".." ∉ place
  noLink : ∀ i ≤ place.length, ∀ target, fs.top.under? (place.take i) ≠ some (.link target)

theorem LinkFree.dropLast {place : List String} (h : fs.LinkFree place) : fs.LinkFree place.dropLast := by
  refine ⟨fun up => h.noUps (List.dropLast_subset place up), ?_⟩
  intro i le
  have short : i ≤ place.length := by
    rw [List.length_dropLast] at le
    omega
  have same : place.dropLast.take i = place.take i := by
    rw [List.dropLast_eq_take, List.take_take, Nat.min_eq_left (by rwa [List.length_dropLast] at le)]
  rw [same]
  exact h.noLink i short

theorem LinkFree.top {place : List String} (h : fs.LinkFree place) : fs.LinkFree [] := by
  refine ⟨List.not_mem_nil, ?_⟩
  intro i _ target
  rw [List.take_nil, ← List.take_zero (l := place)]
  exact h.noLink 0 (Nat.zero_le _) target

theorem linkFree_concat_iff {place : List String} {name : String} :
    fs.LinkFree (place ++ [name]) ↔
      fs.LinkFree place ∧ name ≠ ".." ∧ ∀ target, fs.top.under? (place ++ [name]) ≠ some (.link target) := by
  constructor
  · intro h
    have before := h.dropLast
    rw [List.dropLast_concat] at before
    have last := h.noLink (place ++ [name]).length (Nat.le_refl _)
    rw [List.take_length] at last
    exact ⟨before, fun same => h.noUps (same ▸ List.mem_append_right place List.mem_cons_self), last⟩
  · intro ⟨before, down, last⟩
    constructor
    · rw [List.mem_append, List.mem_singleton]
      rintro (up | same)
      · exact before.noUps up
      · exact down same.symm
    · intro i le
      rw [List.length_append, List.length_singleton] at le
      rcases Nat.lt_or_ge place.length i with whole | part
      · rw [List.take_of_length_le (by rw [List.length_append]; exact whole)]
        exact last
      · rw [List.take_append_of_le_length part]
        exact before.noLink i part

/-- In a tidy tree an entry that is no link stands at a place that no link leads through. -/
theorem Tidy.linkFree (tidy : fs.Tidy) {place : List String} {e : Entry} (h : fs.top.under? place = some e)
    (noLink : ∀ target, e ≠ .link target) : fs.LinkFree place := by
  refine ⟨tidy.up_notMem h, ?_⟩
  intro i le target link
  rw [← List.take_append_drop i place, Entry.under?_append, link] at h
  cases rest : place.drop i with
  | nil =>
    rw [rest] at h
    exact noLink target (Option.some.inj h).symm
  | cons name rest' =>
    rw [rest] at h
    cases h

/-- The last name of a path is that of a link. -/
def IsLink (fs : FileSystem) (p : Path) : Prop := ∃ target, fs.top.under? p.parts = some (.link target)

theorem LinkFree.not_isLink {place : List String} (h : fs.LinkFree place) : ¬ fs.IsLink (pathTo place) := by
  intro ⟨target, link⟩
  have last := h.noLink place.length (Nat.le_refl _) target
  rw [List.take_length] at last
  exact last link

/-! ## Resolving twice -/

/-- What names resolve into is a place that no link leads through, if they are read from such a place. -/
theorem linkFree_of_resolveNames {depth : Nat} {active : List (List String)} {done todo names : List String}
    (start : fs.LinkFree done) (h : fs.resolveNames depth active done todo = .ok names) : fs.LinkFree names := by
  fun_induction fs.resolveNames depth active done todo generalizing names with
  | case1 =>
    obtain rfl := Except.ok.inj h
    exact start
  | case2 depth active done rest ih => exact ih start.dropLast h
  | case3 | case4 | case6 => cases h
  | case5 active done name rest down target found depth new reached resolved ihTarget ihRest =>
    have inside : fs.LinkFree (if target.isAbsolute then [] else done) := by
      split
      · exact start.top
      · exact start
    exact ihRest (ihTarget inside resolved) h
  | case7 depth active done name rest down noLink ih =>
    exact ih (linkFree_concat_iff.mpr ⟨start, down, fun target found => noLink target found⟩) h

/-- A place that no link leads through resolves into itself. -/
theorem LinkFree.resolveNames {depth : Nat} {active : List (List String)} {done todo : List String}
    (h : fs.LinkFree (done ++ todo)) : fs.resolveNames depth active done todo = .ok (done ++ todo) := by
  induction todo generalizing done with
  | nil => rw [FileSystem.resolveNames, List.append_nil]
  | cons name todo ih =>
    rw [List.append_cons] at h ⊢
    have down : name ≠ ".." := by
      rintro rfl
      exact h.noUps (List.mem_append_left _ (List.mem_append_right _ List.mem_cons_self))
    have here := h.noLink (done.length + 1) (by simp)
    rw [List.take_append_of_le_length (by simp), List.take_of_length_le (by simp)] at here
    rw [FileSystem.resolveNames, if_neg down]
    split
    · next target found => exact absurd found (here target)
    · exact ih h

theorem LinkFree.resolved_pathTo {place : List String} (h : fs.LinkFree place) :
    fs.resolved (pathTo place) = .ok (pathTo place) := by
  have whole : fs.LinkFree ([] ++ place) := h
  have names : fs.resolveNames nestingLimit [] (fs.start (pathTo place)) (pathTo place).parts = .ok place :=
    whole.resolveNames
  rw [resolved, resolve, names]
  rfl

/-- A path resolves if the links on it can be followed to the end. -/
def Resolves (fs : FileSystem) (p : Path) : Prop :=
  ∃ names, fs.resolveNames nestingLimit [] (fs.start p) p.parts = .ok names

/-- The working folder is a folder of the tree. -/
def HasHere (fs : FileSystem) : Prop := ∃ entries, fs.top.under? fs.here = some (.folder entries)

theorem resolved_of_resolves (tidy : fs.Tidy) (here : fs.HasHere) {p : Path} (h : fs.Resolves p) :
    ∃ place, fs.resolved p = .ok (pathTo place) ∧ fs.LinkFree place := by
  obtain ⟨names, found⟩ := h
  obtain ⟨entries, folder⟩ := here
  have working : fs.LinkFree fs.here := tidy.linkFree folder (by simp)
  have start : fs.LinkFree (fs.start p) := by
    unfold FileSystem.start
    split
    · exact working.top
    · exact working
  refine ⟨names, ?_, linkFree_of_resolveNames start found⟩
  rw [resolved, resolve, found]
  rfl

/-- Whatever exists resolves. -/
theorem resolves_of_holds {p : Path} (h : fs.holds p = true) : fs.Resolves p := by
  obtain ⟨names, located⟩ := locate_of_holds h
  have shallow : linkLimit ≤ nestingLimit := by decide
  exact ⟨names, (leads_of_follow located).resolveNames shallow (by simp)⟩

/-! ## What entries stand for -/

/-- Two paths stand for one path without links. -/
def SameFile (fs : FileSystem) (p q : Path) : Prop := ∃ r, fs.resolved p = .ok r ∧ fs.resolved q = .ok r

theorem SameFile.symm {p q : Path} (h : fs.SameFile p q) : fs.SameFile q p := by
  obtain ⟨r, hp, hq⟩ := h
  exact ⟨r, hq, hp⟩

theorem eq_of_sameFile {files : List Path} (apart : files.Pairwise fun p q => ¬ fs.SameFile p q) {p q : Path}
    (hp : p ∈ files) (hq : q ∈ files) (same : fs.SameFile p q) : p = q := by
  have symmetric : Std.Symm (fun p q => ¬ fs.SameFile p q) := ⟨fun _ _ h same => h same.symm⟩
  by_contra other
  exact apart.forall hp hq other same

theorem filesOf_eq_resolved (s : Selection) {input : Path} (noFolder : fs.isFolder input = false) :
    fs.filesOf s input = (fs.resolved input).map ([·]) := by
  unfold filesOf
  rw [noFolder]
  cases fs.resolved input <;> rfl

theorem Tidy.filesOf_of_isFolder (tidy : fs.Tidy) (s : Selection) {input : Path} (folder : fs.isFolder input = true) :
    ∃ place entries, fs.locate .existing input = .ok place ∧ fs.top.under? place = some (.folder entries) ∧
      fs.search s input = .ok (fs.filesUnder s (pathTo place) (.folder entries)) ∧
      fs.filesOf s input = fs.search s input := by
  obtain ⟨place, entries, located, reached⟩ := locate_of_isFolder folder
  refine ⟨place, entries, located, reached, tidy.search_eq s located reached, ?_⟩
  unfold filesOf
  rw [if_pos folder]

/-- What an input stands for stands for itself, but for the links that a search finds. -/
theorem filesOf_of_resolves (tidy : fs.Tidy) (here : fs.HasHere) (s : Selection) {input : Path}
    (h : fs.Resolves input) :
    ∃ files, fs.filesOf s input = .ok files ∧
      ∀ p ∈ files, ¬ fs.IsLink p ∧ fs.resolved p = .ok p ∨
        fs.IsLink p ∧ fs.isFolder input = true ∧ fs.search s input = .ok files := by
  by_cases folder : fs.isFolder input = true
  · obtain ⟨place, entries, located, reached, found, same⟩ := tidy.filesOf_of_isFolder s folder
    refine ⟨_, same.trans found, ?_⟩
    intro p member
    obtain ⟨dirs, name, rfl, selected⟩ := (tidy.mem_filesUnder_iff reached).mp member
    obtain ⟨e, listed⟩ := selected.listed
    by_cases link : ∃ target, e = .link target
    · obtain ⟨target, rfl⟩ := link
      exact .inr ⟨⟨target, listed⟩, folder, found⟩
    · have free := tidy.linkFree listed (fun target same => link ⟨target, same⟩)
      exact .inl ⟨free.not_isLink, free.resolved_pathTo⟩
  · obtain ⟨place, resolved, free⟩ := resolved_of_resolves tidy here h
    rw [filesOf_eq_resolved s (Bool.eq_false_iff.mpr folder), resolved]
    refine ⟨[pathTo place], rfl, ?_⟩
    intro p member
    rw [List.mem_singleton.mp member]
    exact .inl ⟨free.not_isLink, free.resolved_pathTo⟩

/-- Inputs that resolve can be expanded. Each path that they stand for stands for itself, unless it is a link that the
search of a folder has found. -/
theorem expand_of_resolves (tidy : fs.Tidy) (here : fs.HasHere) (s : Selection) {inputs : List Path}
    (resolves : ∀ i ∈ inputs, fs.Resolves i) :
    ∃ files, fs.expand s inputs = .ok files ∧ files.Nodup ∧
      ∀ p ∈ files, ¬ fs.IsLink p ∧ fs.resolved p = .ok p ∨
        fs.IsLink p ∧ ∃ i ∈ inputs, fs.isFolder i = true ∧ ∃ found, fs.search s i = .ok found ∧ p ∈ found := by
  have each : ∀ i ∈ inputs, fs.filesOf s i = .ok (filesOrNone fs s i) := by
    intro i member
    obtain ⟨files, found, _⟩ := filesOf_of_resolves tidy here s (resolves i member)
    rw [filesOrNone, found]
    rfl
  refine ⟨distinct (inputs.map (filesOrNone fs s)).flatten, ?_, nodup_distinct _, ?_⟩
  · rw [expand_eq, (mapM_filesOf_eq_ok_iff fs s).mpr ⟨each, rfl⟩]
    rfl
  · intro p member
    obtain ⟨_, listed, inside⟩ := List.mem_flatten.mp (mem_distinct.mp member)
    obtain ⟨i, hi, rfl⟩ := List.mem_map.mp listed
    obtain ⟨files, found, own⟩ := filesOf_of_resolves tidy here s (resolves i hi)
    obtain rfl : filesOrNone fs s i = files := Except.ok.inj ((each i hi).symm.trans found)
    rcases own p inside with itself | ⟨link, folder, searched⟩
    · exact .inl itself
    · exact .inr ⟨link, i, hi, folder, _, searched, inside⟩

/-- Among distinct paths that stand for themselves unless they are links, two are one file only if one is a link. -/
theorem pairwise_not_sameFile_iff {files : List Path} (nodup : files.Nodup)
    (own : ∀ p ∈ files, fs.resolved p = .ok p ∨ fs.IsLink p) :
    files.Pairwise (fun p q => ¬ fs.SameFile p q) ↔
      ∀ p ∈ files, fs.IsLink p → ∀ q ∈ files, fs.SameFile p q → q = p := by
  constructor
  · intro apart p hp _ q hq same
    exact (eq_of_sameFile apart hp hq same).symm
  · intro links
    refine nodup.imp_of_mem ?_
    intro p q hp hq other same
    rcases own p hp with pItself | link
    · rcases own q hq with qItself | link
      · obtain ⟨r, pr, qr⟩ := same
        obtain rfl : p = r := Except.ok.inj (pItself.symm.trans pr)
        exact other (Except.ok.inj (qr.symm.trans qItself))
      · exact other (links q hq link p hp same.symm)
    · exact other (links p hp link q hq same).symm

/-- Inputs that resolve can be expanded, into distinct paths. Each of them stands for itself, unless it is a link that
the search of a folder has found; so two of them are one file only if one of them is such a link. -/
theorem expand_apart_iff (tidy : fs.Tidy) (here : fs.HasHere) (s : Selection) {inputs : List Path}
    (resolves : ∀ i ∈ inputs, fs.Resolves i) :
    ∃ files, fs.expand s inputs = .ok files ∧ files.Nodup ∧
      (∀ p ∈ files, ¬ fs.IsLink p ∧ fs.resolved p = .ok p ∨
        fs.IsLink p ∧ ∃ i ∈ inputs, fs.isFolder i = true ∧ ∃ found, fs.search s i = .ok found ∧ p ∈ found) ∧
      (files.Pairwise (fun p q => ¬ fs.SameFile p q) ↔
        ∀ p ∈ files, fs.IsLink p → ∀ q ∈ files, fs.SameFile p q → q = p) := by
  obtain ⟨files, expanded, nodup, stands⟩ := expand_of_resolves tidy here s resolves
  refine ⟨files, expanded, nodup, stands, pairwise_not_sameFile_iff nodup ?_⟩
  intro p hp
  rcases stands p hp with ⟨_, itself⟩ | ⟨link, _⟩
  · exact .inl itself
  · exact .inr link

/-- A file that is reached by its name, through a link to its folder, and by a search of that folder is listed once. -/
theorem expand_apart_iff_package :
    packageTree.Tidy ∧ packageTree.HasHere ∧
      (∀ i ∈ [⟨"", ["all.py"]⟩, ⟨"", ["all.py", "c.PYI"]⟩], packageTree.Resolves i) ∧
      ∃ files, packageTree.expand ⟨[".pyi"], []⟩ [⟨"", ["all.py"]⟩, ⟨"", ["all.py", "c.PYI"]⟩] = .ok files ∧
        files.Pairwise fun p q => ¬ packageTree.SameFile p q := by
  have here : packageTree.HasHere := ⟨_, rfl⟩
  have resolves : ∀ i ∈ [⟨"", ["all.py"]⟩, ⟨"", ["all.py", "c.PYI"]⟩], packageTree.Resolves i := by
    rw [List.forall_mem_cons, List.forall_mem_singleton]
    exact ⟨resolves_of_holds (by cbv), resolves_of_holds (by cbv)⟩
  obtain ⟨files, expanded, -, stands, iff⟩ := expand_apart_iff tidy_packageTree here ⟨[".pyi"], []⟩ resolves
  refine ⟨tidy_packageTree, here, resolves, files, expanded, iff.mpr ?_⟩
  intro p hp link
  rcases stands p hp with ⟨noLink, _⟩ | ⟨-, i, hi, folder, found, searched, inside⟩
  · exact absurd link noLink
  · have notFile : i ≠ ⟨"", ["all.py", "c.PYI"]⟩ := by
      rintro rfl
      have no : packageTree.isFolder ⟨"", ["all.py", "c.PYI"]⟩ = false := by cbv
      exact Bool.false_ne_true (no.symm.trans folder)
    obtain rfl : i = ⟨"", ["all.py"]⟩ := by
      simpa [notFile] using hi
    have located : packageTree.locate .existing ⟨"", ["all.py"]⟩ = .ok ["pkg"] := by cbv
    have takes : (Selection.mk [".pyi"] []).takes "c.PYI" = true := by decide +kernel
    have drops : (Selection.mk [".pyi"] []).takes "a.txt" = false := by decide +kernel
    have only : packageTree.filesUnder ⟨[".pyi"], []⟩ (pathTo ["pkg"])
        (.folder [("c.PYI", .file []), ("a.txt", .file [])]) = [pathTo ["pkg", "c.PYI"]] := by
      simp [filesUnder, filesIn, foldersUnder, countsAsFile, List.filter_cons, takes, drops, pathTo, Path.child]
    rw [tidy_packageTree.search_eq ⟨[".pyi"], []⟩ located under?_package, only] at searched
    obtain rfl := Except.ok.inj searched
    obtain rfl := List.mem_singleton.mp inside
    obtain ⟨target, link⟩ := link
    have file : packageTree.top.under? ["pkg", "c.PYI"] = some (.file []) := by cbv
    cases file.symm.trans link

/-! ## Links that a search finds -/

/-- A file and a link to it. -/
def linkedFile : FileSystem where
  top := .folder [("a.py", .file []), ("b.py", .link ⟨"", ["a.py"]⟩)]
  here := []

/-- A link that is named stands for the file it leads to; found in a folder, it stands beside that file. -/
theorem linked_file_listed_twice :
    ∃ files, linkedFile.expand (.of [] []) [⟨"", ["b.py"]⟩, ⟨"", []⟩] = .ok files ∧
      pathTo ["a.py"] ∈ files ∧ pathTo ["b.py"] ∈ files ∧
      linkedFile.SameFile (pathTo ["a.py"]) (pathTo ["b.py"]) ∧
      ¬ files.Pairwise fun p q => ¬ linkedFile.SameFile p q := by
  have tidy : linkedFile.Tidy := tidy_of_isTidy (by decide +kernel)
  have named : linkedFile.filesOf (.of [] []) ⟨"", ["b.py"]⟩ = .ok [pathTo ["a.py"]] := by
    have resolved : linkedFile.resolved ⟨"", ["b.py"]⟩ = .ok (pathTo ["a.py"]) := by cbv
    rw [filesOf_eq_resolved _ (by cbv), resolved]
    rfl
  have folder : linkedFile.isFolder ⟨"", []⟩ = true := by cbv
  obtain ⟨place, entries, located, reached, found, searched⟩ := tidy.filesOf_of_isFolder (.of [] []) folder
  obtain rfl : [] = place := by
    have root : linkedFile.locate .existing ⟨"", []⟩ = .ok [] := by cbv
    exact Except.ok.inj (root.symm.trans located)
  have listed : pathTo ["b.py"] ∈ linkedFile.filesUnder (.of [] []) (pathTo []) (.folder entries) := by
    refine (tidy.mem_filesUnder_iff reached).mpr ⟨[], "b.py", rfl, ?_⟩
    exact (selected_nil_iff reached).mpr ⟨⟨_, by cbv⟩, by cbv, by decide +kernel⟩
  have resolved : linkedFile.resolved (pathTo ["b.py"]) = .ok (pathTo ["a.py"]) := by cbv
  have itself : linkedFile.resolved (pathTo ["a.py"]) = .ok (pathTo ["a.py"]) := by cbv
  have same : linkedFile.SameFile (pathTo ["a.py"]) (pathTo ["b.py"]) := ⟨_, itself, resolved⟩
  let files := [pathTo ["a.py"]] ++ (linkedFile.filesUnder (.of [] []) (pathTo []) (.folder entries) ++ [])
  have file : pathTo ["a.py"] ∈ distinct files := mem_distinct.mpr (List.mem_append_left _ List.mem_cons_self)
  have beside : pathTo ["b.py"] ∈ distinct files :=
    mem_distinct.mpr (List.mem_append_right _ (List.mem_append_left _ listed))
  refine ⟨distinct files, ?_, file, beside, same, ?_⟩
  · rw [expand_eq, List.mapM_cons, named, List.mapM_cons, searched, found]
    rfl
  · intro apart
    exact absurd (eq_of_sameFile apart file beside same) (by decide)

end SpellLint.FileSystem
