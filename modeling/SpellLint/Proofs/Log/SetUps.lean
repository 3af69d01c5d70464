import Mathlib.Data.List.Induction
import SpellLint.Log.Setup

/-! # Setting up the log again and again

Of all set-ups that are not refused, the first decides where records go, and the last decides the threshold, that of the
log and that of every target. A set-up is refused exactly if its name is, in any case, one of two names that stand for
something else than a level; it leaves everything as it is.
-/

set_option autoImplicit false

namespace SpellLint.Log

open SpellLint.Text

/-! ## Names of levels -/

/-- The names that stand for something else than a level. -/
def takenNames : List String := ["BASIC_FORMAT", "_STYLES"]

/-- A name stands, in any case, for something else than a level. -/
def IsTaken (name : String) : Prop := upper name ∈ takenNames

instance (name : String) : Decidable (IsTaken name) := inferInstanceAs (Decidable (upper name ∈ takenNames))

/-- A name means the level that it names in any case, and informations if it names none. -/
def Means (name : String) (number : Nat) : Prop :=
  (upper name, number) ∈ levelNumbers ∨ upper name ∉ levelNumbers.map (·.1) ∧ number = Level.info.number

/-- A taken name names no level. -/
theorem IsTaken.unnamed {name : String} (taken : IsTaken name) : levelNumbers.lookup (upper name) = none := by
  have apart : ∀ word ∈ takenNames, levelNumbers.lookup word = none := by decide
  exact apart _ taken

theorem threshold_of_isTaken {name : String} (taken : IsTaken name) : ∃ e, threshold name = .error e := by
  simp only [threshold, taken.unnamed]
  rcases List.mem_cons.mp taken with form | rest
  · exact ⟨_, if_pos form⟩
  · have styles := List.mem_singleton.mp rest
    have other : upper name ≠ "BASIC_FORMAT" := by
      rw [styles]
      decide
    exact ⟨_, (if_neg other).trans (if_pos styles)⟩

/-- A name that is not taken is a threshold: the level that it means. -/
theorem threshold_of_not_isTaken {name : String} (free : ¬ IsTaken name) :
    ∃ number, threshold name = .ok number ∧ Means name number := by
  simp only [threshold]
  cases found : levelNumbers.lookup (upper name) with
  | some number =>
    obtain ⟨front, back, parts, -⟩ := List.lookup_eq_some_iff.mp found
    refine ⟨number, rfl, .inl ?_⟩
    rw [parts]
    exact List.mem_append_right front List.mem_cons_self
  | none =>
    obtain ⟨form, styles⟩ : upper name ≠ "BASIC_FORMAT" ∧ upper name ≠ "_STYLES" := by
      simpa [IsTaken, takenNames] using free
    have unnamed : upper name ∉ levelNumbers.map (·.1) := by
      intro named
      obtain ⟨entry, member, same⟩ := List.mem_map.mp named
      have absent := List.lookup_eq_none_iff.mp found entry member
      rw [same, bne_self_eq_false] at absent
      cases absent
    exact ⟨Level.info.number, (if_neg form).trans (if_neg styles), .inr ⟨unnamed, rfl⟩⟩

/-! ## One set-up -/

/-- A set-up: the name of a threshold, and the folder for files if records are to go to files. -/
structure SetUp where
  levelName : String
  folder : Option Path
  deriving DecidableEq

/-- The files in a folder that records go to. -/
def filesOf (here folder : Path) : Target := .file (here.absolute (folder.child "lexicheck.log")) 5000000 3

/-- Records go where `first` sends them, and the threshold everywhere is the one that `last` means. -/
structure SetUpBy (here : Path) (first last : SetUp) (s : State) : Prop where
  targets : s.handlers.map (·.1) = .console :: (first.folder.map (filesOf here)).toList
  level : Means last.levelName s.level
  handlers : ∀ h ∈ s.handlers, h.2 = s.level

namespace State

variable (here : Path)

/-- The log after a set-up; if it is refused, nothing has changed. -/
def after (s : State) (c : SetUp) : State :=
  match s.configure here c.levelName c.folder with
  | .ok t => t
  | .error _ => s

theorem configure_of_isTaken (s : State) {c : SetUp} (taken : IsTaken c.levelName) :
    ∃ e, s.configure here c.levelName c.folder = .error e := by
  obtain ⟨e, refused⟩ := threshold_of_isTaken taken
  refine ⟨e, ?_⟩
  unfold configure
  rw [refused]
  rfl

/-- A set-up that is not refused takes the targets that are there, or its own if there are none. -/
theorem configure_of_not_isTaken (s : State) {c : SetUp} (free : ¬ IsTaken c.levelName) :
    ∃ number, Means c.levelName number ∧ s.configure here c.levelName c.folder =
      .ok ⟨number, (if s.handlers.isEmpty then targets here c.folder else s.handlers.map (·.1)).map (·, number)⟩ := by
  obtain ⟨number, named, means⟩ := threshold_of_not_isTaken free
  refine ⟨number, means, ?_⟩
  unfold configure
  rw [named]
  rfl

theorem configure_eq_error_iff (s : State) (c : SetUp) :
    (∃ e, s.configure here c.levelName c.folder = .error e) ↔ IsTaken c.levelName := by
  refine ⟨?_, configure_of_isTaken here s⟩
  rintro ⟨e, refused⟩
  by_contra free
  obtain ⟨number, -, done⟩ := configure_of_not_isTaken here s free
  rw [done] at refused
  cases refused

theorem after_of_isTaken (s : State) {c : SetUp} (taken : IsTaken c.levelName) : s.after here c = s := by
  obtain ⟨e, refused⟩ := configure_of_isTaken here s taken
  rw [after, refused]

theorem configure_eq_ok_after (s : State) {c : SetUp} (free : ¬ IsTaken c.levelName) :
    s.configure here c.levelName c.folder = .ok (s.after here c) := by
  obtain ⟨number, -, done⟩ := configure_of_not_isTaken here s free
  rw [after, done]

/-- The first set-up decides where records go. -/
theorem setUpBy_after_initial {c : SetUp} (free : ¬ IsTaken c.levelName) :
    SetUpBy here c c (initial.after here c) := by
  obtain ⟨number, means, done⟩ := configure_of_not_isTaken here initial free
  rw [after, done]
  refine ⟨?_, means, ?_⟩
  · rw [List.map_map]
    exact List.map_id _
  · intro h member
    obtain ⟨target, -, rfl⟩ := List.mem_map.mp member
    rfl

end State

/-- A later set-up changes the threshold only. -/
theorem SetUpBy.after {here : Path} {first last c : SetUp} {s : State} (h : SetUpBy here first last s)
    (free : ¬ IsTaken c.levelName) : SetUpBy here first c (s.after here c) := by
  obtain ⟨number, means, done⟩ := State.configure_of_not_isTaken here s free
  have some : s.handlers.isEmpty = false := by
    cases empty : s.handlers with
    | nil =>
      have targets := h.targets
      rw [empty] at targets
      cases targets
    | cons => rfl
  rw [State.after, done, some, if_neg Bool.false_ne_true]
  refine ⟨?_, means, ?_⟩
  · rw [List.map_map]
    exact (List.map_id _).trans h.targets
  · intro h member
    obtain ⟨target, -, rfl⟩ := List.mem_map.mp member
    rfl

/-! ## All set-ups -/

namespace State

variable (here : Path)

/-- The log after some set-ups. -/
def ofSetUps (calls : List SetUp) : State := calls.foldl (after here) initial

/-- The set-ups that are not refused. -/
def accepted (calls : List SetUp) : List SetUp := calls.filter fun c => ¬ IsTaken c.levelName

theorem ofSetUps_concat (calls : List SetUp) (c : SetUp) :
    ofSetUps here (calls ++ [c]) = (ofSetUps here calls).after here c := by
  rw [ofSetUps, List.foldl_append]
  rfl

/-- Set-ups that are refused leave no trace: the induction is from the last set-up back, and the first one that is not
refused starts the invariant. -/
theorem ofSetUps_cases (calls : List SetUp) :
    accepted calls = [] ∧ ofSetUps here calls = initial ∨
      ∃ first last, (accepted calls).head? = some first ∧ (accepted calls).getLast? = some last ∧
        SetUpBy here first last (ofSetUps here calls) := by
  induction calls using List.reverseRecOn with
  | nil => exact .inl ⟨rfl, rfl⟩
  | append_singleton calls c ih =>
    have split : accepted (calls ++ [c]) = accepted calls ++ accepted [c] := List.filter_append ..
    rw [ofSetUps_concat, split]
    by_cases taken : IsTaken c.levelName
    · have none : accepted [c] = [] := by simp [accepted, taken]
      rw [none, List.append_nil, after_of_isTaken here _ taken]
      exact ih
    · have one : accepted [c] = [c] := by simp [accepted, taken]
      rw [one]
      refine .inr ?_
      rcases ih with ⟨nothing, start⟩ | ⟨first, last, head, -, done⟩
      · rw [nothing, start]
        exact ⟨c, c, rfl, rfl, setUpBy_after_initial here taken⟩
      · refine ⟨first, c, ?_, List.getLast?_concat, done.after taken⟩
        rw [List.head?_append, head, Option.some_or]

/-- Set-ups up to the first that is refused. -/
def run (calls : List SetUp) : Except LevelError State :=
  calls.foldlM (fun s c => s.configure here c.levelName c.folder) initial

theorem foldlM_configure_eq_ok_iff (calls : List SetUp) (s t : State) :
    calls.foldlM (fun s c => s.configure here c.levelName c.folder) s = .ok t ↔
      (∀ c ∈ calls, ¬ IsTaken c.levelName) ∧ t = calls.foldl (after here) s := by
  induction calls generalizing s with
  | nil =>
    simp only [List.foldlM_nil, List.foldl_nil, List.not_mem_nil, false_implies, implies_true, true_and]
    exact ⟨fun same => (Except.ok.inj same).symm, fun same => congrArg Except.ok same.symm⟩
  | cons c calls ih =>
    rw [List.foldlM_cons, List.forall_mem_cons, List.foldl_cons]
    by_cases taken : IsTaken c.levelName
    · obtain ⟨e, refused⟩ := configure_of_isTaken here s taken
      rw [refused]
      refine iff_of_false (fun same => ?_) fun all => all.1.1 taken
      cases same
    · rw [configure_eq_ok_after here s taken]
      exact (ih _).trans (and_congr_left' (and_iff_right taken).symm)

/-- Set-ups go on as long as none of them is refused, which happens exactly if a name is taken. What they lead to is
told by those that are not refused: records go where the first of them sends them, and the threshold is the one that the
last of them means, for the log and for every target. -/
theorem setUps_decided (calls : List SetUp) :
    (∀ (s : State) (c : SetUp), (∃ e, s.configure here c.levelName c.folder = .error e) ↔ IsTaken c.levelName) ∧
    (∀ t, run here calls = .ok t ↔ (∀ c ∈ calls, ¬ IsTaken c.levelName) ∧ t = ofSetUps here calls) ∧
    (accepted calls = [] → ofSetUps here calls = initial) ∧
    ∀ first last, (accepted calls).head? = some first → (accepted calls).getLast? = some last →
      SetUpBy here first last (ofSetUps here calls) := by
  refine ⟨configure_eq_error_iff here, foldlM_configure_eq_ok_iff here calls initial, ?_, ?_⟩
  · intro nothing
    rcases ofSetUps_cases here calls with ⟨-, start⟩ | ⟨first, last, head, -, -⟩
    · exact start
    · rw [nothing] at head
      cases head
  · intro first last head final
    rcases ofSetUps_cases here calls with ⟨nothing, -⟩ | ⟨first', last', head', final', done⟩
    · rw [nothing] at head
      cases head
    · obtain rfl := Option.some.inj (head'.symm.trans head)
      obtain rfl := Option.some.inj (final'.symm.trans final)
      exact done

/-- A name that is taken between two that are not changes nothing. -/
theorem setUps_decided_between :
    let first : SetUp := ⟨"debug", some ⟨"", ["logs"]⟩⟩
    let last : SetUp := ⟨"loud", none⟩
    let calls := [first, ⟨"Basic_Format", none⟩, last]
    (accepted calls).head? = some first ∧ (accepted calls).getLast? = some last ∧
      SetUpBy ⟨"/", []⟩ first last (ofSetUps ⟨"/", []⟩ calls) := by
  intro first last calls
  have kept : accepted calls = [first, last] := by decide +kernel
  have head : (accepted calls).head? = some first := by rw [kept]; rfl
  have final : (accepted calls).getLast? = some last := by rw [kept]; rfl
  exact ⟨head, final, (setUps_decided ⟨"/", []⟩ calls).2.2.2 first last head final⟩

/-- The name of the plain form of records is refused, although it names no level. -/
theorem form_name_refused :
    upper "basic_format" ∉ levelNumbers.map (·.1) ∧
      initial.configure ⟨"/", []⟩ "basic_format" none = .error (.text basicForm) ∧
      ¬ ∃ t, run ⟨"/", []⟩ [⟨"basic_format", none⟩] = .ok t := by
  have refused : initial.configure ⟨"/", []⟩ "basic_format" none = .error (.text basicForm) := by decide +kernel
  refine ⟨by decide +kernel, refused, ?_⟩
  rintro ⟨t, done⟩
  have step : run ⟨"/", []⟩ [⟨"basic_format", none⟩] = .error (.text basicForm) := by
    rw [run, List.foldlM_cons, refused]
    rfl
  rw [step] at done
  cases done

end State

end SpellLint.Log
