import SpellLint.Files.Discovery
import SpellLint.Proofs.Distinct

/-! # What inputs stand for

The files of several inputs are those of each input in turn, without the ones that came before. Inputs whose files
have nothing in common are expanded each on their own, and another order of the inputs gives the same files in
another order.
-/

set_option autoImplicit false

namespace SpellLint.FileSystem

/-! ## Lists without repetition -/

/-- One more path, unless it is there. -/
def addPath (seen : List Path) (p : Path) : List Path := if seen.contains p then seen else seen ++ [p]

theorem distinct_eq (paths : List Path) : distinct paths = paths.foldl addPath [] := rfl

theorem mem_foldl_addPath {paths seen : List Path} {q : Path} :
    q ∈ paths.foldl addPath seen ↔ q ∈ seen ∨ q ∈ paths := mem_foldl_addNew

theorem nodup_foldl_addPath {paths seen : List Path} (h : seen.Nodup) : (paths.foldl addPath seen).Nodup :=
  nodup_foldl_addNew h

theorem mem_distinct {paths : List Path} {q : Path} : q ∈ distinct paths ↔ q ∈ paths := by
  rw [distinct_eq, mem_foldl_addPath]
  simp

theorem nodup_distinct (paths : List Path) : (distinct paths).Nodup := nodup_foldl_addPath List.nodup_nil

/-- Paths that are not there are added as if nothing were there. -/
theorem foldl_addPath_append {paths seen : List Path} (fresh : ∀ p ∈ paths, p ∉ seen) (more : List Path) :
    paths.foldl addPath (seen ++ more) = seen ++ paths.foldl addPath more := by
  induction paths generalizing more with
  | nil => rfl
  | cons p paths ih =>
    have step : addPath (seen ++ more) p = seen ++ addPath more p := by
      have new : p ∉ seen := fresh p List.mem_cons_self
      unfold addPath
      by_cases known : p ∈ more
      · simp [known]
      · simp [known, new]
    rw [List.foldl_cons, List.foldl_cons, step, ih fun q hq => fresh q (List.mem_cons_of_mem p hq)]

theorem distinct_append {front back : List Path} (apart : ∀ p ∈ front, p ∉ back) :
    distinct (front ++ back) = distinct front ++ distinct back := by
  have fresh : ∀ p ∈ back, p ∉ distinct front := by
    intro p hp known
    exact apart p (mem_distinct.mp known) hp
  have added := foldl_addPath_append fresh []
  rw [List.append_nil] at added
  rw [distinct_eq, List.foldl_append]
  exact added

theorem distinct_perm {front back : List Path} (h : front.Perm back) : (distinct front).Perm (distinct back) := by
  apply (List.perm_ext_iff_of_nodup (nodup_distinct front) (nodup_distinct back)).mpr
  intro p
  rw [mem_distinct, mem_distinct]
  exact h.mem_iff

/-! ## Expansion -/

section

variable (fs : FileSystem) (s : Selection)

theorem expand_eq (inputs : List Path) :
    fs.expand s inputs = (inputs.mapM (fs.filesOf s)).map fun found => distinct found.flatten := by
  unfold expand
  cases inputs.mapM (fs.filesOf s) <;> rfl

/-- Inputs whose files have nothing in common are expanded one after the other; the first that cannot be expanded
stops the expansion. -/
theorem expand_append {xs ys : List Path}
    (apart : ∀ fx fy, fs.expand s xs = .ok fx → fs.expand s ys = .ok fy → ∀ p ∈ fx, p ∉ fy) :
    fs.expand s (xs ++ ys) = do return (← fs.expand s xs) ++ (← fs.expand s ys) := by
  rw [expand_eq, expand_eq] at apart
  rw [expand_eq, expand_eq, expand_eq, List.mapM_append]
  cases front : xs.mapM (fs.filesOf s) with
  | error e => rfl
  | ok fx =>
    cases back : ys.mapM (fs.filesOf s) with
    | error e => rfl
    | ok fy =>
      rw [front, back] at apart
      have disjoint : ∀ p ∈ fx.flatten, p ∉ fy.flatten := by
        intro p hp hq
        exact apart _ _ rfl rfl p (mem_distinct.mpr hp) (mem_distinct.mpr hq)
      change Except.ok (distinct (fx ++ fy).flatten) = Except.ok (distinct fx.flatten ++ distinct fy.flatten)
      rw [List.flatten_append, distinct_append disjoint]

/-- The files of an input, or none if it cannot be expanded. -/
def filesOrNone (input : Path) : List Path := (fs.filesOf s input).toOption.getD []

theorem mapM_filesOf_eq_ok_iff {inputs : List Path} {found : List (List Path)} :
    inputs.mapM (fs.filesOf s) = .ok found ↔
      (∀ p ∈ inputs, fs.filesOf s p = .ok (filesOrNone fs s p)) ∧ found = inputs.map (filesOrNone fs s) := by
  induction inputs generalizing found with
  | nil =>
    simp only [List.mapM_nil, List.map_nil, List.not_mem_nil, false_implies, implies_true, true_and]
    exact ⟨fun h => (Except.ok.inj h).symm, fun h => congrArg Except.ok h.symm⟩
  | cons p inputs ih =>
    rw [List.mapM_cons, List.forall_mem_cons, List.map_cons]
    cases first : fs.filesOf s p with
    | error e =>
      constructor
      · intro h
        cases h
      · intro h
        cases h.1.1
    | ok files =>
      have own : filesOrNone fs s p = files := by
        rw [filesOrNone, first]
        rfl
      rw [own]
      cases rest : inputs.mapM (fs.filesOf s) with
      | error e =>
        constructor
        · intro h
          cases h
        · intro ⟨⟨_, all⟩, _⟩
          have done : inputs.mapM (fs.filesOf s) = .ok (inputs.map (filesOrNone fs s)) := ih.mpr ⟨all, rfl⟩
          rw [rest] at done
          cases done
      | ok others =>
        obtain ⟨all, same⟩ := ih.mp rest
        constructor
        · intro h
          have h : files :: others = found := Except.ok.inj h
          exact ⟨⟨rfl, all⟩, by rw [← h, same]⟩
        · intro ⟨_, h⟩
          rw [h, same]
          rfl

/-- Another order of the inputs gives the same files in another order. -/
theorem expand_perm {xs ys fx : List Path} (h : xs.Perm ys) (found : fs.expand s xs = .ok fx) :
    ∃ fy, fs.expand s ys = .ok fy ∧ fx.Perm fy := by
  rw [expand_eq] at found
  cases front : xs.mapM (fs.filesOf s) with
  | error e =>
    rw [front] at found
    cases found
  | ok lists =>
    rw [front] at found
    obtain rfl : distinct lists.flatten = fx := Except.ok.inj found
    obtain ⟨all, rfl⟩ := (mapM_filesOf_eq_ok_iff fs s).mp front
    have back : ys.mapM (fs.filesOf s) = .ok (ys.map (filesOrNone fs s)) :=
      (mapM_filesOf_eq_ok_iff fs s).mpr ⟨fun p hp => all p (h.mem_iff.mpr hp), rfl⟩
    refine ⟨distinct (ys.map (filesOrNone fs s)).flatten, ?_, distinct_perm (h.map _).flatten⟩
    rw [expand_eq, back]
    rfl

end

end SpellLint.FileSystem
