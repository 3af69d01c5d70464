import Mathlib.Data.List.Induction
import SpellLint.Proofs.Files.Resolution

/-! # Places in the tree of folders

In a tree whose folders name their entries apart, the names from the root tell every entry, and the path of these
names leads to it unless it is a link.
-/

set_option autoImplicit false

namespace SpellLint

namespace Entry

theorem mem_of_child? {entries : List (String × Entry)} {name : String} {e : Entry}
    (h : (folder entries).child? name = some e) : (name, e) ∈ entries := by
  obtain ⟨⟨other, e⟩, found, rfl⟩ := Option.map_eq_some_iff.mp h
  obtain rfl : other = name := by simpa using List.find?_some found
  exact List.mem_of_find?_eq_some found

/-- Where names are distinct, the entry of a name is the one that is listed with it. -/
theorem child?_eq_some_iff {entries : List (String × Entry)} (distinct : (entries.map (·.1)).Nodup) {name : String}
    {e : Entry} : (folder entries).child? name = some e ↔ (name, e) ∈ entries := by
  refine ⟨mem_of_child?, ?_⟩
  intro h
  change (entries.find? _).map _ = _
  induction entries with
  | nil => cases h
  | cons entry entries ih =>
    rw [List.map_cons, List.nodup_cons] at distinct
    rw [List.find?_cons]
    rcases List.mem_cons.mp h with rfl | later
    · simp
    · have other : (entry.1 == name) = false := by
        rw [beq_eq_false_iff_ne]
        rintro rfl
        exact distinct.1 (List.mem_map.mpr ⟨_, later, rfl⟩)
      rw [other]
      exact ih distinct.2 later

theorem under?_append (front back : List String) (e : Entry) :
    under? (front ++ back) e = (under? front e).bind (under? back) := by
  induction front generalizing e with
  | nil => rfl
  | cons name front ih =>
    change (e.child? name).bind (under? (front ++ back)) = ((e.child? name).bind (under? front)).bind (under? back)
    cases e.child? name with
    | none => rfl
    | some inner => exact ih inner

theorem under?_concat_eq_some_iff {front : List String} {name : String} {top e : Entry} :
    top.under? (front ++ [name]) = some e ↔
      ∃ entries, top.under? front = some (folder entries) ∧ (folder entries).child? name = some e := by
  have single (outer : Entry) : outer.under? [name] = outer.child? name := by
    cases found : outer.child? name <;> simp [under?, found]
  rw [under?_append, Option.bind_eq_some_iff]
  constructor
  · rintro ⟨outer, reached, found⟩
    rw [single] at found
    cases outer with
    | folder entries => exact ⟨entries, reached, found⟩
    | file content => cases found
    | link target => cases found
  · rintro ⟨entries, reached, found⟩
    exact ⟨folder entries, reached, (single _).trans found⟩

mutual

/-- Whether the names in a folder and in the folders in it are distinct and none of them leads upwards. -/
def isTidy : Entry → Bool
  | .folder entries => decide (entries.map (·.1)).Nodup && !(entries.map (·.1)).contains ".." && areTidy entries
  | .file _ => true
  | .link _ => true

/-- Whether all entries of a folder are tidy. -/
def areTidy : List (String × Entry) → Bool
  | [] => true
  | (_, e) :: entries => e.isTidy && areTidy entries

end

theorem isTidy_of_areTidy {entries : List (String × Entry)} (h : areTidy entries = true) {name : String} {e : Entry}
    (member : (name, e) ∈ entries) : e.isTidy = true := by
  induction entries with
  | nil => cases member
  | cons entry entries ih =>
    rw [areTidy, Bool.and_eq_true] at h
    rcases List.mem_cons.mp member with rfl | later
    · exact h.1
    · exact ih h.2 later

theorem isTidy_under? {top e : Entry} {place : List String} (h : top.isTidy = true)
    (reached : top.under? place = some e) : e.isTidy = true := by
  induction place using List.reverseRecOn generalizing e with
  | nil =>
    obtain rfl := Option.some.inj reached
    exact h
  | append_singleton place name ih =>
    obtain ⟨entries, here, found⟩ := under?_concat_eq_some_iff.mp reached
    have outer := ih here
    rw [isTidy, Bool.and_eq_true] at outer
    exact isTidy_of_areTidy outer.2 (mem_of_child? found)

end Entry

namespace FileSystem

variable {fs : FileSystem}

/-- The names in every folder are distinct, and none of them leads upwards. -/
def Tidy (fs : FileSystem) : Prop :=
  ∀ place entries, fs.top.under? place = some (.folder entries) →
    (entries.map (·.1)).Nodup ∧ ".." ∉ entries.map (·.1)

/-- A tree is checked folder by folder. -/
theorem tidy_of_isTidy (h : fs.top.isTidy = true) : fs.Tidy := by
  intro place entries here
  have tidy := Entry.isTidy_under? h here
  rw [Entry.isTidy, Bool.and_eq_true, Bool.and_eq_true, decide_eq_true_iff, Bool.not_eq_true',
    ← Bool.not_eq_true, List.contains_iff_mem] at tidy
  exact tidy.1

/-- What is listed in a folder stands under its name. -/
theorem Tidy.under?_iff (tidy : fs.Tidy) {place : List String} {entries : List (String × Entry)}
    (here : fs.top.under? place = some (.folder entries)) {name : String} {e : Entry} :
    fs.top.under? (place ++ [name]) = some e ↔ (name, e) ∈ entries := by
  rw [Entry.under?_concat_eq_some_iff, here, ← Entry.child?_eq_some_iff (tidy place entries here).1]
  constructor
  · rintro ⟨_, same, found⟩
    obtain rfl : entries = _ := Entry.folder.inj (Option.some.inj same)
    exact found
  · intro found
    exact ⟨entries, rfl, found⟩

/-- No name on the way to an entry leads upwards. -/
theorem Tidy.up_notMem (tidy : fs.Tidy) {place : List String} {e : Entry} (h : fs.top.under? place = some e) :
    ".." ∉ place := by
  induction place using List.reverseRecOn generalizing e with
  | nil => exact List.not_mem_nil
  | append_singleton place name ih =>
    obtain ⟨entries, here, found⟩ := Entry.under?_concat_eq_some_iff.mp h
    rw [List.mem_append, List.mem_singleton]
    rintro (above | rfl)
    · exact ih here above
    · exact (tidy place entries here).2 (List.mem_map_of_mem (Entry.mem_of_child? found))

/-! ## Paths to entries -/

/-- Names without links lead to the entry under them. -/
theorem leads_of_under? {done todo : List String} {e : Entry} (noUps : ".." ∉ todo)
    (h : fs.top.under? (done ++ todo) = some e) (noLink : ∀ target, e ≠ .link target) :
    Leads fs 0 done todo (done ++ todo) := by
  induction todo generalizing done with
  | nil =>
    rw [List.append_nil]
    exact .here 0 done
  | cons name todo ih =>
    have down : name ≠ ".." := fun same => noUps (same ▸ List.mem_cons_self)
    have below : ".." ∉ todo := fun up => noUps (List.mem_cons_of_mem _ up)
    have shift : done ++ name :: todo = done ++ [name] ++ todo := by rw [List.append_assoc, List.singleton_append]
    rw [shift] at h ⊢
    cases todo with
    | nil =>
      rw [List.append_nil] at h ⊢
      cases e with
      | file content => exact .file down h
      | folder entries => exact .folder down h (.here 0 _)
      | link target => exact absurd rfl (noLink target)
    | cons next todo =>
      -- something stands below, so that a folder stands here
      have reached := h
      rw [Entry.under?_append, Option.bind_eq_some_iff] at reached
      obtain ⟨outer, here, inner⟩ := reached
      cases outer with
      | folder entries => exact .folder down here (ih below h)
      | file content => cases inner
      | link target => cases inner

/-- The path from the root through some names. -/
def pathTo (place : List String) : Path := ⟨"/", place⟩

theorem Tidy.locate_pathTo (tidy : fs.Tidy) {place : List String} {e : Entry} (h : fs.top.under? place = some e)
    (noLink : ∀ target, e ≠ .link target) : fs.locate .existing (pathTo place) = .ok place := by
  have leads : Leads fs 0 [] place ([] ++ place) := leads_of_under? (tidy.up_notMem h) h noLink
  exact follow_of_leads (leads.mono (Nat.zero_le linkLimit))

theorem entry_of_locate {p : Path} {place : List String} (h : fs.locate .existing p = .ok place) :
    fs.entry p = (fs.top.under? place).elim (.error .missing) .ok := by
  unfold entry
  rw [h]
  simp only [bind, Except.bind]
  cases fs.top.under? place <;> rfl

theorem Tidy.entry_pathTo (tidy : fs.Tidy) {place : List String} {e : Entry} (h : fs.top.under? place = some e)
    (noLink : ∀ target, e ≠ .link target) : fs.entry (pathTo place) = .ok e := by
  rw [entry_of_locate (tidy.locate_pathTo h noLink), h]
  rfl

theorem Tidy.isFolder_pathTo (tidy : fs.Tidy) {place : List String} {e : Entry} (h : fs.top.under? place = some e)
    (noLink : ∀ target, e ≠ .link target) : fs.isFolder (pathTo place) = true ↔ ∃ entries, e = .folder entries := by
  unfold isFolder
  rw [tidy.entry_pathTo h noLink]
  cases e with
  | file content => simp
  | folder entries => simp
  | link target => exact absurd rfl (noLink target)

/-- A path that leads to a folder is followed to the names of the folder. -/
theorem locate_of_isFolder {p : Path} (h : fs.isFolder p = true) :
    ∃ place entries, fs.locate .existing p = .ok place ∧ fs.top.under? place = some (.folder entries) := by
  unfold isFolder at h
  cases found : fs.locate .existing p with
  | error e =>
    rw [entry, found] at h
    cases h
  | ok place =>
    rw [entry_of_locate found] at h
    refine ⟨place, ?_⟩
    cases here : fs.top.under? place with
    | none =>
      rw [here] at h
      cases h
    | some e =>
      rw [here] at h
      cases e with
      | file content => cases h
      | link target => cases h
      | folder entries => exact ⟨entries, rfl, rfl⟩

end FileSystem

end SpellLint
