import Mathlib.Data.List.DropRight
import SpellLint.Text.Blank
import SpellLint.Text.Case

/-! # Lower case is settled

A text in lower case is its own lower case form (`lowerChars_lowerChars`): every character that lower casing gives is
left alone by it, and none is a capital sigma, whose form depends on what stands around it. Nor does lower casing make
white space of anything else, so a trimmed text stays trimmed.
-/

set_option autoImplicit false

namespace SpellLint.Text

/-! ## Runs -/

namespace CaseRun

/-- Whether a run holds a code point. -/
def holds (r : CaseRun) (n : Nat) : Bool := r.first ≤ n ∧ n ≤ r.last ∧ (n - r.first) % r.stride = 0

/-- The code points of a run. -/
def members (r : CaseRun) : List Nat :=
  (List.range ((r.last - r.first) / r.stride + 1)).map fun k => r.first + r.stride * k

/-- Where a run moves a code point. -/
def image (r : CaseRun) (n : Nat) : Nat := (n + r.shift).toNat

/-- Whether a run moves nothing into another run. Runs that stand apart need no look at their members. -/
def avoids (r s : CaseRun) : Bool :=
  Nat.blt (r.image r.last) s.first || Nat.blt s.last (r.image r.first) || r.members.all fun n => !s.holds (r.image n)

theorem mem_members {r : CaseRun} {n : Nat} (h : r.holds n = true) : n ∈ r.members := by
  obtain ⟨low, high, even⟩ := of_decide_eq_true h
  refine List.mem_map.mpr ⟨(n - r.first) / r.stride, ?_, ?_⟩
  · rw [List.mem_range, Nat.lt_succ_iff]
    exact Nat.div_le_div_right (by omega)
  · rw [Nat.mul_div_cancel' (Nat.dvd_of_mod_eq_zero even)]
    omega

theorem image_mono (r : CaseRun) {m n : Nat} (h : m ≤ n) : r.image m ≤ r.image n := by
  unfold image
  omega

theorem not_holds_image {r s : CaseRun} (apart : r.avoids s = true) {n : Nat} (held : r.holds n = true) :
    s.holds (r.image n) = false := by
  obtain ⟨low, high, -⟩ := of_decide_eq_true held
  unfold avoids at apart
  rw [Bool.or_eq_true, Bool.or_eq_true, Nat.blt_eq, Nat.blt_eq, List.all_eq_true] at apart
  rcases apart with (below | above) | members
  · have le := r.image_mono high
    refine decide_eq_false fun inside => ?_
    omega
  · have le := r.image_mono low
    refine decide_eq_false fun inside => ?_
    omega
  · exact Bool.not_eq_true' _ ▸ members n (mem_members held)

end CaseRun

/-- What is moved is in a run. -/
theorem exists_run_of_moveBy {runs : Array CaseRun} {n m : Nat} (moved : moveBy runs n = some m) :
    ∃ r ∈ runs.toList, r.holds n = true ∧ m = r.image n := by
  unfold moveBy at moved
  split at moved
  · next r found =>
    split at moved
    · next inside =>
      exact ⟨r, Array.mem_toList_iff.mpr (Array.mem_of_getElem? found), decide_eq_true inside,
        (Option.some.inj moved).symm⟩
    · cases moved
  · cases moved

/-! ## The table of lower case -/

/-- Whether a code point is a character that neither has a lower case form of its own kind nor is white space. -/
def isPlain (n : Nat) : Bool := n.isValidChar && n ≠ 'İ'.toNat && n ≠ 'Σ'.toNat && !blanks.mem n

theorem lowerRuns_avoid : (lowerRuns.toList.all fun r => lowerRuns.toList.all r.avoids) = true := by
  decide +kernel

theorem lowerRuns_plain : (lowerRuns.toList.all fun r => r.members.all fun n => isPlain (r.image n)) = true := by
  decide +kernel

/-- No code point is moved twice. -/
theorem moveBy_of_moveBy {n m : Nat} (moved : moveBy lowerRuns n = some m) :
    moveBy lowerRuns m = none ∧ isPlain m = true := by
  obtain ⟨r, member, held, rfl⟩ := exists_run_of_moveBy moved
  have avoid := List.all_eq_true.mp lowerRuns_avoid r member
  have plain := List.all_eq_true.mp (List.all_eq_true.mp lowerRuns_plain r member) n (r.mem_members held)
  refine ⟨?_, plain⟩
  cases again : moveBy lowerRuns (r.image n) with
  | none => rfl
  | some k =>
    obtain ⟨s, other, held', -⟩ := exists_run_of_moveBy again
    rw [CaseRun.not_holds_image (List.all_eq_true.mp avoid s other) held] at held'
    cases held'

/-! ## Characters -/

theorem toNat_ofNat {n : Nat} (valid : n.isValidChar) : (Char.ofNat n).toNat = n := by
  unfold Char.ofNat
  rw [dif_pos valid]
  rfl

/-- A character that lower casing leaves alone, wherever it stands. -/
def IsLowered (c : Char) : Prop := c ≠ 'Σ' ∧ lowerChar c = [c]

instance : DecidablePred IsLowered := fun _ => inferInstanceAs (Decidable (_ ∧ _))

/-- A character of the lower case form of another: it is settled, and white space comes of white space only. -/
def ComesOf (c d : Char) : Prop := IsLowered d ∧ (isBlank c = false → isBlank d = false)

theorem comesOf_of_printed {c d : Char} (lowered : IsLowered d) (printed : isBlank d = false) : ComesOf c d :=
  ⟨lowered, fun _ => printed⟩

theorem comesOf_of_moved {c : Char} {n : Nat} (moved : moveBy lowerRuns c.toNat = some n) :
    ComesOf c (Char.ofNat n) := by
  obtain ⟨settled, plain⟩ := moveBy_of_moveBy moved
  simp only [isPlain, Bool.and_eq_true, Bool.not_eq_true', decide_eq_true_eq] at plain
  obtain ⟨⟨⟨valid, noDot⟩, noSigma⟩, printed⟩ := plain
  have code := toNat_ofNat valid
  rw [← code] at noDot noSigma
  refine comesOf_of_printed ⟨fun same => noSigma (congrArg Char.toNat same), ?_⟩ ?_
  · unfold lowerChar
    rw [if_neg fun same => noDot (congrArg Char.toNat same), code, settled]
  · rw [isBlank, code, printed]

theorem comesOf_of_mem_lowerChar {c d : Char} (other : c ≠ 'Σ') (member : d ∈ lowerChar c) : ComesOf c d := by
  unfold lowerChar at member
  split at member
  · rcases List.mem_cons.mp member with rfl | member
    · exact comesOf_of_printed (by decide +kernel) (by decide +kernel)
    · obtain rfl := List.mem_singleton.mp member
      exact comesOf_of_printed (by decide +kernel) (by decide +kernel)
  · next noDot =>
    split at member
    · next n moved =>
      obtain rfl := List.mem_singleton.mp member
      exact comesOf_of_moved moved
    · next unmoved =>
      obtain rfl := List.mem_singleton.mp member
      refine ⟨⟨other, ?_⟩, id⟩
      rw [lowerChar, if_neg noDot, unmoved]

theorem lowerChar_ne_nil (c : Char) : lowerChar c ≠ [] := by
  unfold lowerChar
  split
  · exact List.cons_ne_nil _ _
  · split <;> exact List.cons_ne_nil _ _

/-! ## Texts -/

/-- The lower case form of a text is that of its first character, in front of that of the rest. -/
theorem lowerAfter_cons (before : List Char) (c : Char) (cs : List Char) :
    ∃ forms, lowerAfter before (c :: cs) = forms ++ lowerAfter (c :: before) cs ∧ forms ≠ [] ∧
      ∀ d ∈ forms, ComesOf c d := by
  rw [lowerAfter]
  by_cases sigma : c = 'Σ'
  · refine ⟨_, rfl, ?_, ?_⟩
    · rw [if_pos sigma]
      exact List.cons_ne_nil _ _
    · intro d member
      rw [if_pos sigma, List.mem_singleton] at member
      subst member
      split
      · exact comesOf_of_printed (by decide +kernel) (by decide +kernel)
      · exact comesOf_of_printed (by decide +kernel) (by decide +kernel)
  · rw [if_neg sigma]
    exact ⟨_, rfl, lowerChar_ne_nil c, fun d member => comesOf_of_mem_lowerChar sigma member⟩

/-- What follows in a text may change the forms of what stands in front, but not where they stand. -/
theorem exists_lowerAfter_append (before cs more : List Char) :
    ∃ front, lowerAfter before (cs ++ more) = front ++ lowerAfter (cs.reverse ++ before) more := by
  induction cs generalizing before with
  | nil => exact ⟨[], rfl⟩
  | cons c cs ih =>
    obtain ⟨forms, cut, -, -⟩ := lowerAfter_cons before c (cs ++ more)
    obtain ⟨front, behind⟩ := ih (c :: before)
    refine ⟨forms ++ front, ?_⟩
    rw [List.cons_append, cut, behind, List.append_assoc, List.reverse_cons, List.append_assoc, List.singleton_append]

theorem isLowered_of_mem_lowerAfter {before cs : List Char} {d : Char} (member : d ∈ lowerAfter before cs) :
    IsLowered d := by
  induction cs generalizing before with
  | nil => cases member
  | cons c cs ih =>
    obtain ⟨forms, cut, -, come⟩ := lowerAfter_cons before c cs
    rw [cut, List.mem_append] at member
    rcases member with member | member
    · exact (come d member).1
    · exact ih member

theorem lowerAfter_of_isLowered {cs : List Char} (lowered : ∀ c ∈ cs, IsLowered c) (before : List Char) :
    lowerAfter before cs = cs := by
  induction cs generalizing before with
  | nil => rfl
  | cons c cs ih =>
    obtain ⟨noSigma, own⟩ := lowered c List.mem_cons_self
    have rest := ih (fun d member => lowered d (List.mem_cons_of_mem c member)) (c :: before)
    rw [lowerAfter, if_neg noSigma, own, rest]
    rfl

theorem lowerChars_lowerChars (cs : List Char) : lowerChars (lowerChars cs) = lowerChars cs :=
  lowerAfter_of_isLowered (fun _ member => isLowered_of_mem_lowerAfter member) []

/-! ## Trimmed texts -/

/-- A text that neither starts nor ends with white space. -/
structure Trimmed (cs : List Char) : Prop where
  head : ∀ c ∈ cs.head?, isBlank c = false
  last : ∀ c ∈ cs.getLast?, isBlank c = false

theorem trimmed_trim (cs : List Char) : Trimmed (trim cs) := by
  change Trimmed ((cs.dropWhile isBlank).rdropWhile isBlank)
  constructor
  · intro c first
    obtain ⟨tail, cut⟩ := List.rdropWhile_prefix isBlank (cs.dropWhile isBlank)
    have nonempty : (cs.dropWhile isBlank).rdropWhile isBlank ≠ [] := List.ne_nil_of_mem (List.mem_of_mem_head? first)
    have start := List.head?_dropWhile_not isBlank cs
    rw [← cut, List.head?_append_of_ne_nil _ nonempty, first] at start
    simpa using start
  · intro c last
    have nonempty : (cs.dropWhile isBlank).rdropWhile isBlank ≠ [] := List.ne_nil_of_mem (List.mem_of_getLast? last)
    have stop := List.rdropWhile_last_not isBlank _ nonempty
    rw [List.getLast?_eq_some_getLast nonempty] at last
    rw [Option.some.inj last] at stop
    simpa using stop

/-- Whether a text is white space. -/
def AllBlank (cs : List Char) : Prop := ∀ c ∈ cs, isBlank c = true

theorem exists_ends (cs : List Char) :
    ∃ front back, cs = front ++ trim cs ++ back ∧ AllBlank front ∧ AllBlank back := by
  refine ⟨cs.takeWhile isBlank, (cs.dropWhile isBlank).rtakeWhile isBlank, ?_, ?_, ?_⟩
  · change cs = _ ++ (cs.dropWhile isBlank).rdropWhile isBlank ++ _
    rw [List.append_assoc, List.rdropWhile_append_rtakeWhile, List.takeWhile_append_dropWhile]
  · exact fun c member => List.mem_takeWhile_imp member
  · exact fun c member => List.mem_rtakeWhile_imp member

theorem trim_between {front cs back : List Char} (blankFront : AllBlank front) (h : Trimmed cs)
    (blankBack : AllBlank back) : trim (front ++ cs ++ back) = cs := by
  change ((front ++ cs ++ back).dropWhile isBlank).rdropWhile isBlank = cs
  rw [List.append_assoc, List.dropWhile_append_of_pos blankFront]
  cases cs with
  | nil =>
    rw [List.nil_append, List.dropWhile_eq_nil_iff.mpr blankBack]
    rfl
  | cons c cs =>
    have stays : (c :: cs).rdropWhile isBlank = c :: cs := by
      rw [List.rdropWhile_eq_self_iff]
      intro nonempty
      simp [h.last _ (List.getLast?_eq_some_getLast nonempty)]
    rw [List.cons_append, List.dropWhile_cons_of_neg (by simp [h.head c rfl]), ← List.cons_append, List.rdropWhile,
      List.reverse_append, List.dropWhile_append_of_pos fun d member => blankBack d (List.mem_reverse.mp member)]
    exact stays

theorem trim_of_trimmed {cs : List Char} (h : Trimmed cs) : trim cs = cs := by
  have blank : AllBlank [] := fun _ member => absurd member List.not_mem_nil
  have same := trim_between blank h blank
  rwa [List.nil_append, List.append_nil] at same

theorem exists_comesOf_of_getLast? {before cs : List Char} {d : Char} (last : (lowerAfter before cs).getLast? = some d) :
    ∃ c, cs.getLast? = some c ∧ ComesOf c d := by
  induction cs generalizing before with
  | nil => cases last
  | cons c rest ih =>
    obtain ⟨forms, cut, -, come⟩ := lowerAfter_cons before c rest
    rw [cut] at last
    cases rest with
    | nil =>
      rw [lowerAfter, List.append_nil] at last
      exact ⟨c, rfl, come d (List.mem_of_getLast? last)⟩
    | cons e es =>
      obtain ⟨forms', cut', nonempty, -⟩ := lowerAfter_cons (c :: before) e es
      have more : lowerAfter (c :: before) (e :: es) ≠ [] := by
        rw [cut']
        exact List.append_ne_nil_of_left_ne_nil nonempty _
      rw [List.getLast?_append_of_ne_nil _ more] at last
      exact ih last

theorem trimmed_lowerChars {cs : List Char} (h : Trimmed cs) : Trimmed (lowerChars cs) := by
  constructor
  · intro d first
    cases cs with
    | nil => cases first
    | cons c cs =>
      obtain ⟨forms, cut, nonempty, come⟩ := lowerAfter_cons [] c cs
      rw [lowerChars, cut, List.head?_append_of_ne_nil _ nonempty] at first
      exact (come d (List.mem_of_mem_head? first)).2 (h.head c rfl)
  · intro d last
    obtain ⟨c, end', comes⟩ := exists_comesOf_of_getLast? last
    exact comes.2 (h.last c end')

end SpellLint.Text
