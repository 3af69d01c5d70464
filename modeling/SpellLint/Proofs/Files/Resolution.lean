import Mathlib.Data.Nat.Find
import SpellLint.Proofs.Files.Expansion

/-! # Paths that lead somewhere

Following a path and resolving it agree as far as the path leads anywhere: a path that can be followed resolves into
the names that it leads to. No link on it is met again while it is being resolved (`Leads.resolveNames`): what a link
leads to can be followed through fewer links than the link itself. So inputs that exist can always be expanded
(`expand_of_holds`).
-/

set_option autoImplicit false

namespace SpellLint.FileSystem

/-- The names `todo`, read from the folder `done`, lead to the names `reached` through at most so many links. -/
inductive Leads (fs : FileSystem) : Nat → List String → List String → List String → Prop
  | here (links : Nat) (done : List String) : Leads fs links done [] done
  | up {links : Nat} {done rest reached : List String} (more : Leads fs links done.dropLast rest reached) :
      Leads fs links done (".." :: rest) reached
  | folder {links : Nat} {done rest reached : List String} {name : String} {entries : List (String × Entry)}
      (down : name ≠ "..") (found : fs.top.under? (done ++ [name]) = some (.folder entries))
      (more : Leads fs links (done ++ [name]) rest reached) : Leads fs links done (name :: rest) reached
  | file {links : Nat} {done : List String} {name : String} {content : List UInt8}
      (down : name ≠ "..") (found : fs.top.under? (done ++ [name]) = some (.file content)) :
      Leads fs links done [name] (done ++ [name])
  | link {links : Nat} {done rest reached : List String} {name : String} {target : Path}
      (down : name ≠ "..") (found : fs.top.under? (done ++ [name]) = some (.link target))
      (more : Leads fs links (if target.isAbsolute then [] else done) (target.parts ++ rest) reached) :
      Leads fs (links + 1) done (name :: rest) reached

variable {fs : FileSystem}

theorem leads_of_follow {links : Nat} {done todo reached : List String}
    (h : fs.follow .existing links done todo = .ok reached) : Leads fs links done todo reached := by
  fun_induction fs.follow .existing links done todo with
  | case1 links done =>
    obtain rfl : done = reached := Except.ok.inj h
    exact .here links done
  | case2 links done rest ih => exact .up (ih h)
  | case3 links done name rest down missing => exact absurd ‹_ ∧ _›.1 (by decide)
  | case4 => cases h
  | case5 links done name rest down entries found ih => exact .folder down found (ih h)
  | case6 links done name down content found =>
    obtain rfl : done ++ [name] = reached := Except.ok.inj h
    exact .file down found
  | case7 => cases h
  | case8 => cases h
  | case9 done name rest down target found links ih => exact .link down found (ih h)

theorem follow_of_leads {links : Nat} {done todo reached : List String} (h : Leads fs links done todo reached) :
    fs.follow .existing links done todo = .ok reached := by
  induction h with
  | here => rw [follow]
  | up _ ih =>
    rw [follow, if_pos rfl]
    exact ih
  | folder down found _ ih =>
    rw [follow, if_neg down, found]
    exact ih
  | file down found =>
    rw [follow, if_neg down, found]
    rfl
  | link down found _ ih =>
    rw [follow, if_neg down, found]
    exact ih

namespace Leads

variable {links : Nat} {done todo front back reached other : List String}

/-- One more link does no harm. -/
theorem succ (h : Leads fs links done todo reached) : Leads fs (links + 1) done todo reached := by
  induction h with
  | here links done => exact .here _ done
  | up _ ih => exact .up ih
  | folder down found _ ih => exact .folder down found ih
  | file down found => exact .file down found
  | link down found _ ih => exact .link down found ih

theorem mono {more : Nat} (h : Leads fs links done todo reached) (le : links ≤ more) :
    Leads fs more done todo reached := by
  induction le with
  | refl => exact h
  | step _ ih => exact ih.succ

/-- There is a least number of links through which names lead somewhere. -/
theorem least (h : Leads fs links done todo reached) :
    ∃ least, Leads fs least done todo reached ∧ least ≤ links ∧ ∀ fewer < least, ¬ Leads fs fewer done todo reached := by
  classical
  have some : ∃ links, Leads fs links done todo reached := ⟨links, h⟩
  exact ⟨Nat.find some, Nat.find_spec some, Nat.find_min' some h, fun _ less => Nat.find_min some less⟩

/-- Names lead to one place only. -/
theorem unique (h : Leads fs links done todo reached) (h' : Leads fs links done todo other) : reached = other :=
  Except.ok.inj ((follow_of_leads h).symm.trans (follow_of_leads h'))

/-- Names lead somewhere by way of the place that the first of them lead to. -/
theorem split (h : Leads fs links done (front ++ back) reached) :
    ∃ middle, Leads fs links done front middle ∧ Leads fs links middle back reached := by
  generalize whole : front ++ back = todo at h
  induction h generalizing front with
  | here links done =>
    obtain ⟨rfl, rfl⟩ := List.append_eq_nil_iff.mp whole
    exact ⟨done, .here links done, .here links done⟩
  | up more ih =>
    rcases List.append_eq_cons_iff.mp whole with ⟨rfl, rfl⟩ | ⟨front, rfl, rfl⟩
    · exact ⟨_, .here _ _, .up more⟩
    · obtain ⟨middle, first, second⟩ := ih rfl
      exact ⟨middle, .up first, second⟩
  | folder down found more ih =>
    rcases List.append_eq_cons_iff.mp whole with ⟨rfl, rfl⟩ | ⟨front, rfl, rfl⟩
    · exact ⟨_, .here _ _, .folder down found more⟩
    · obtain ⟨middle, first, second⟩ := ih rfl
      exact ⟨middle, .folder down found first, second⟩
  | file down found =>
    rcases List.append_eq_cons_iff.mp whole with ⟨rfl, rfl⟩ | ⟨front, rfl, none⟩
    · exact ⟨_, .here _ _, .file down found⟩
    · obtain ⟨rfl, rfl⟩ := List.append_eq_nil_iff.mp none.symm
      exact ⟨_, .file down found, .here _ _⟩
  | @link links done rest reached name target down found more ih =>
    rcases List.append_eq_cons_iff.mp whole with ⟨rfl, rfl⟩ | ⟨front, rfl, rfl⟩
    · exact ⟨_, .here _ _, .link down found more⟩
    · obtain ⟨middle, first, second⟩ := ih (List.append_assoc target.parts front back)
      exact ⟨middle, .link down found first, second.succ⟩

/-- A link that leads somewhere is followed through more links than what it leads to. -/
theorem of_link {name : String} {target : Path} (down : name ≠ "..")
    (found : fs.top.under? (done ++ [name]) = some (.link target)) (h : Leads fs links done [name] reached) :
    ∃ fewer, links = fewer + 1 ∧ Leads fs fewer (if target.isAbsolute then [] else done) target.parts reached := by
  cases h with
  | up => exact absurd rfl down
  | folder _ found' =>
    rw [found] at found'
    cases found'
  | file _ found' =>
    rw [found] at found'
    cases found'
  | @link fewer _ _ _ _ _ _ found' more =>
    rw [found] at found'
    cases found'
    exact ⟨fewer, rfl, by simpa using more⟩

/-- Names that lead somewhere resolve into what they lead to. The links that are being resolved are out of reach: none
of them can be followed through as few links as are left. -/
theorem resolveNames (h : Leads fs links done todo reached) {depth : Nat} (deep : links ≤ depth)
    {active : List (List String)}
    (apart : ∀ folder name place, folder ++ [name] ∈ active → ¬ Leads fs links folder [name] place) :
    fs.resolveNames depth active done todo = .ok reached := by
  induction links using Nat.strongRecOn generalizing done todo reached depth active with
  | ind links fewer =>
    induction todo generalizing done with
    | nil =>
      cases h
      rw [FileSystem.resolveNames]
    | cons name rest ih =>
      cases h with
      | up more =>
        rw [FileSystem.resolveNames, if_pos rfl]
        exact ih more
      | folder down found more =>
        rw [FileSystem.resolveNames, if_neg down, found]
        exact ih more
      | file down found =>
        rw [FileSystem.resolveNames, if_neg down, found]
        exact ih (.here _ _)
      | @link left _ _ _ _ target down found more =>
        obtain ⟨middle, first, second⟩ := more.split
        obtain ⟨depth, rfl⟩ : ∃ d, depth = d + 1 := ⟨depth - 1, by omega⟩
        have new : done ++ [name] ∉ active := by
          intro again
          exact apart done name middle again (.link down found (by simpa using first))
        -- what the link leads to is resolved with as few links left as it needs, so that the link itself needs more
        obtain ⟨least, needed, enough, minimal⟩ := first.least
        have inside : ∀ folder name' place, folder ++ [name'] ∈ (done ++ [name]) :: active →
            ¬ Leads fs least folder [name'] place := by
          intro folder name' place member again
          rcases List.mem_cons.mp member with same | member
          · obtain ⟨rfl, rfl⟩ : folder = done ∧ name' = name := by simpa using same
            obtain ⟨less, more, again⟩ := again.of_link down found
            obtain rfl : place = middle := (again.mono (by omega)).unique first
            exact minimal less (by omega) again
          · exact apart folder name' place member (again.mono (by omega))
        have resolved := fewer least (by omega) needed (by omega : least ≤ depth) inside
        rw [FileSystem.resolveNames, if_neg down, found]
        simp only [new, if_false, resolved]
        refine fewer left (by omega) second (by omega) ?_
        intro folder name' place member again
        exact apart folder name' place member again.succ

end Leads

/-! ## Resolving a path -/

/-- A path that leads somewhere resolves into the names that it leads to. -/
theorem resolve_of_locate {p : Path} {names : List String} (h : fs.locate .existing p = .ok names) :
    fs.resolve p = .ok ⟨"/", names⟩ := by
  have leads := leads_of_follow h
  have shallow : linkLimit ≤ nestingLimit := by decide
  unfold resolve
  rw [leads.resolveNames shallow (by simp)]

theorem locate_of_holds {p : Path} (h : fs.holds p = true) : ∃ names, fs.locate .existing p = .ok names := by
  unfold holds entry at h
  cases found : fs.locate .existing p with
  | error e =>
    rw [found] at h
    cases h
  | ok names => exact ⟨names, rfl⟩

theorem search_of_resolved (s : Selection) {root folder : Path} (h : fs.resolved root = .ok folder) :
    ∃ files, fs.search s root = .ok files := by
  unfold search
  rw [h]
  cases found : fs.entry folder with
  | error e => exact ⟨[], by simp [bind, Except.bind, pure, Except.pure, found]⟩
  | ok e => exact ⟨fs.filesUnder s folder e, by simp [bind, Except.bind, pure, Except.pure, found]⟩

/-- Whatever exists stands for some files. -/
theorem filesOf_of_holds (s : Selection) {p : Path} (h : fs.holds p = true) :
    ∃ files, fs.filesOf s p = .ok files := by
  obtain ⟨names, located⟩ := locate_of_holds h
  have resolved : fs.resolved p = .ok ⟨"/", names⟩ := by
    rw [FileSystem.resolved, resolve_of_locate located]
    rfl
  unfold filesOf
  split
  · exact search_of_resolved s resolved
  · rw [resolved]
    exact ⟨_, rfl⟩

/-- Inputs that exist can be expanded. -/
theorem expand_of_holds (s : Selection) {inputs : List Path} (h : ∀ p ∈ inputs, fs.holds p = true) :
    ∃ files, fs.expand s inputs = .ok files := by
  have each : ∀ p ∈ inputs, fs.filesOf s p = .ok (filesOrNone fs s p) := by
    intro p member
    obtain ⟨files, found⟩ := filesOf_of_holds s (h p member)
    rw [filesOrNone, found]
    rfl
  rw [expand_eq, (mapM_filesOf_eq_ok_iff fs s).mpr ⟨each, rfl⟩]
  exact ⟨_, rfl⟩

end SpellLint.FileSystem
