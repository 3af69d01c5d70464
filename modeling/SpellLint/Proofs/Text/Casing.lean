import SpellLint.Proofs.Text.Lowering
import SpellLint.Proofs.Text.Search

/-! # Upper case and back

Lower casing the upper case form of a text does not always give the lower case form of the text: an upper case form may
be several letters, it may be shared by several small letters, and which small sigma comes of a capital one is decided
by its place. It does exactly when every character comes back by itself (`lowerChars_upperChars_iff`). Neither casing
touches white space, so both may be done before or after trimming (`trim_lowerChars`, `trim_upperChars`).
-/

set_option autoImplicit false

namespace SpellLint.Text

/-! ## Tables -/

namespace CaseRun

/-- Whether a set has one answer for the places to which the code points of a run go. -/
def goesTo (r : CaseRun) (place : Nat → Nat) (s : CodePoints) (answer : Bool) : Bool :=
  s.settledOn answer (place r.first) (place r.last) || r.members.all fun n => s.settledOn answer (place n) (place n)

theorem mem_of_goesTo {r : CaseRun} {place : Nat → Nat} (mono : ∀ {m n : Nat}, m ≤ n → place m ≤ place n)
    {s : CodePoints} (increasing : s.Increasing) {answer : Bool} (goes : r.goesTo place s answer = true) {n : Nat}
    (held : r.holds n = true) : s.mem (place n) = answer := by
  obtain ⟨low, high, -⟩ := of_decide_eq_true held
  rcases Bool.or_eq_true_iff.mp goes with whole | each
  · exact CodePoints.mem_of_settledOn increasing whole (mono low) (mono high)
  · have point := List.all_eq_true.mp each n (mem_members held)
    exact CodePoints.mem_of_settledOn increasing point (Nat.le_refl _) (Nat.le_refl _)

/-- Whether a run is the one that moves the iota subscript, a mark, to the letter iota. -/
def isMark (r : CaseRun) : Bool := r.first == '\u0345'.toNat && r.last == '\u0345'.toNat

end CaseRun

theorem increasing_cased : cased.Increasing := by decide +kernel

theorem increasing_caseIgnorable : caseIgnorable.Increasing := by decide +kernel

theorem increasing_blanks : blanks.Increasing := by decide +kernel

theorem upperRuns_cased :
    (upperRuns.toList.all fun r => r.isMark || r.goesTo id cased true && r.goesTo r.image cased true) = true := by
  decide +kernel

theorem upperRuns_not_caseIgnorable :
    (upperRuns.toList.all fun r => r.isMark || r.goesTo id caseIgnorable false &&
      r.goesTo r.image caseIgnorable false) = true := by
  decide +kernel

/-- A set that has one answer for all that is moved, the mark apart, has it for a code point and for its image. -/
theorem mem_image_of_upperRuns {s : CodePoints} (increasing : s.Increasing) {answer : Bool}
    (one : (upperRuns.toList.all fun r => r.isMark || r.goesTo id s answer && r.goesTo r.image s answer) = true)
    {r : CaseRun} (member : r ∈ upperRuns.toList) {n : Nat} (held : r.holds n = true) (noMark : n ≠ '\u0345'.toNat) :
    s.mem (r.image n) = s.mem n := by
  have notMark : r.isMark = false := by
    by_contra mark
    rw [Bool.not_eq_false, CaseRun.isMark, Bool.and_eq_true, beq_iff_eq, beq_iff_eq] at mark
    obtain ⟨low, high, -⟩ := of_decide_eq_true held
    omega
  have both := List.all_eq_true.mp one r member
  rw [notMark, Bool.false_or, Bool.and_eq_true] at both
  have source : s.mem n = answer := r.mem_of_goesTo id increasing both.1 held
  rw [r.mem_of_goesTo r.image_mono increasing both.2 held, source]

theorem upperRuns_not_blank : (upperRuns.toList.all fun r => r.goesTo r.image blanks false) = true := by decide +kernel

/-- Whether a code point is a character, and a capital sigma only if it comes of a small one. -/
def isUpperOf (n m : Nat) : Bool :=
  m.isValidChar && (m ≠ 'Σ'.toNat || n = 'σ'.toNat || n = 'ς'.toNat)

theorem upperRuns_sigma : (upperRuns.toList.all fun r => r.members.all fun n => isUpperOf n (r.image n)) = true := by
  decide +kernel

theorem upperExpansions_long : (upperExpansions.toList.all fun e =>
    e.1 ≠ 'İ'.toNat && 2 ≤ e.2.length && e.2.all fun d => !isBlank d) = true := by
  decide +kernel

/-- Whether neither casing does anything to a code point, nor looks through it. -/
def isInert (n : Nat) : Bool :=
  !caseIgnorable.mem n && !cased.mem n && (moveBy lowerRuns n).isNone && (moveBy upperRuns n).isNone &&
    (lookupSorted upperExpansions n).isNone && n ≠ 'İ'.toNat && n ≠ 'Σ'.toNat

theorem blanks_inert : ∀ i < blanks.turns.size, i % 2 = 0 →
    ∀ n ∈ List.range' (blanks.turn i) (blanks.turn (i + 1) - blanks.turn i), isInert n = true := by
  decide +kernel

theorem isInert_of_isBlank {c : Char} (blank : isBlank c = true) : isInert c.toNat = true := by
  obtain ⟨i, bound, even, low, high⟩ := CodePoints.exists_turns_of_mem increasing_blanks (by decide) blank
  refine blanks_inert i bound even c.toNat (List.mem_range'_1.mpr ⟨low, ?_⟩)
  omega

/-! ## Contexts -/

theorem meetsCased_cons (c : Char) (cs : List Char) :
    meetsCased (c :: cs) = if isCaseIgnorable c then meetsCased cs else cased.mem c.toNat := by
  rw [meetsCased, meetsCased]
  by_cases ignorable : isCaseIgnorable c = true
  · rw [List.dropWhile_cons_of_pos ignorable, if_pos ignorable]
  · rw [List.dropWhile_cons_of_neg ignorable, if_neg ignorable]

/-- Two characters that make no difference to the form of a sigma near by. -/
structure Alike (c d : Char) : Prop where
  ignorable : isCaseIgnorable c = isCaseIgnorable d
  cased : cased.mem c.toNat = cased.mem d.toNat

theorem meetsCased_congr {c d : Char} (alike : Alike c d) {cs ds : List Char} (same : meetsCased cs = meetsCased ds) :
    meetsCased (c :: cs) = meetsCased (d :: ds) := by
  rw [meetsCased_cons, meetsCased_cons, alike.ignorable, alike.cased, same]

/-- The form of a small sigma between two stretches of text, the one in front with its latest character first. -/
def sigmaForm (before after : List Char) : Char := if meetsCased before && !meetsCased after then 'ς' else 'σ'

/-- The lower case form of a character at its place. -/
def lowerForm (before : List Char) (c : Char) (after : List Char) : List Char :=
  if c = 'Σ' then [sigmaForm before after] else lowerChar c

section

variable {before before' after after' : List Char}

theorem sigmaForm_congr (front : meetsCased before' = meetsCased before) (back : meetsCased after' = meetsCased after) :
    sigmaForm before' after' = sigmaForm before after := by
  unfold sigmaForm
  rw [front, back]

theorem lowerForm_congr (c : Char) (front : meetsCased before' = meetsCased before)
    (back : meetsCased after' = meetsCased after) : lowerForm before' c after' = lowerForm before c after := by
  unfold lowerForm
  rw [sigmaForm_congr front back]

end

theorem lowerAfter_eq (before : List Char) (c : Char) (cs : List Char) :
    lowerAfter before (c :: cs) = lowerForm before c cs ++ lowerAfter (c :: before) cs := rfl

theorem length_lowerChar (c : Char) : (lowerChar c).length = if c = 'İ' then 2 else 1 := by
  unfold lowerChar
  split
  · rfl
  · split <;> rfl

theorem length_lowerForm (before : List Char) (c : Char) (after : List Char) :
    (lowerForm before c after).length = (lowerChar c).length := by
  unfold lowerForm
  split
  · next sigma =>
    rw [sigma, length_lowerChar]
    rfl
  · rfl

/-- The place of a character has no bearing on how long its lower case form is. -/
theorem length_lowerAfter (before cs : List Char) : (lowerAfter before cs).length = (cs.flatMap lowerChar).length := by
  induction cs generalizing before with
  | nil => rfl
  | cons c cs ih =>
    rw [lowerAfter_eq, List.length_append, length_lowerForm, ih, List.flatMap_cons, List.length_append]

theorem length_le_length_lowerChars (cs : List Char) : cs.length ≤ (cs.flatMap lowerChar).length := by
  induction cs with
  | nil => exact Nat.le_refl 0
  | cons c cs ih =>
    have nonempty := List.length_pos_iff.mpr (lowerChar_ne_nil c)
    rw [List.flatMap_cons, List.length_append, List.length_cons]
    omega

/-! ## Single characters -/

/-- The upper case form `u` of a character is a single one. -/
structure UpperSingle (c u : Char) : Prop where
  form : upperChar c = [u]
  printed : isBlank c = false → isBlank u = false
  alike : c ≠ '\u0345' → Alike u c
  sigma : u = 'Σ' → c = 'Σ' ∨ c = 'σ' ∨ c = 'ς'

/-- The upper case form of a character is several characters. -/
structure UpperSeveral (c : Char) : Prop where
  noDot : c ≠ 'İ'
  long : 2 ≤ (upperChar c).length
  printed : ∀ d ∈ upperChar c, isBlank d = false

theorem upperSingle_of_moved {c : Char} {n : Nat} (moved : moveBy upperRuns c.toNat = some n) :
    UpperSingle c (Char.ofNat n) := by
  obtain ⟨r, member, held, rfl⟩ := exists_run_of_moveBy moved
  have inBlanks := List.all_eq_true.mp upperRuns_not_blank r member
  have upper := List.all_eq_true.mp (List.all_eq_true.mp upperRuns_sigma r member) c.toNat (r.mem_members held)
  simp only [isUpperOf, Bool.and_eq_true, Bool.or_eq_true, decide_eq_true_eq] at upper
  have code := toNat_ofNat upper.1
  refine ⟨?_, fun _ => ?_, fun noMark => ?_, fun sigma => ?_⟩
  · unfold upperChar
    simp only [moved]
  · rw [isBlank, code, r.mem_of_goesTo r.image_mono increasing_blanks inBlanks held]
  · have point : c.toNat ≠ '\u0345'.toNat := fun same => noMark (Char.toNat_inj.mp same)
    constructor
    · rw [isCaseIgnorable, code,
        mem_image_of_upperRuns increasing_caseIgnorable upperRuns_not_caseIgnorable member held point]
      rfl
    · rw [code, mem_image_of_upperRuns increasing_cased upperRuns_cased member held point]
  · rw [← code, sigma] at upper
    rcases upper.2 with (other | small) | final
    · exact absurd rfl other
    · exact .inr (.inl (Char.toNat_inj.mp small))
    · exact .inr (.inr (Char.toNat_inj.mp final))

theorem upper_cases (c : Char) : (∃ u, UpperSingle c u) ∨ UpperSeveral c := by
  cases moved : moveBy upperRuns c.toNat with
  | some n => exact .inl ⟨_, upperSingle_of_moved moved⟩
  | none =>
    cases expanded : lookupSorted upperExpansions c.toNat with
    | none =>
      have own : upperChar c = [c] := by
        unfold upperChar
        simp only [moved, expanded, Option.getD_none]
      exact .inl ⟨c, own, id, fun _ => ⟨rfl, rfl⟩, .inl⟩
    | some form =>
      have own : upperChar c = form := by
        unfold upperChar
        simp only [moved, expanded, Option.getD_some]
      have entry := List.all_eq_true.mp upperExpansions_long _ (lookupSorted_mem expanded)
      simp only [Bool.and_eq_true, decide_eq_true_eq, List.all_eq_true, Bool.not_eq_true'] at entry
      obtain ⟨⟨noDot, long⟩, printed⟩ := entry
      refine .inr ⟨fun same => noDot (congrArg Char.toNat same), ?_, ?_⟩
      · rw [own]
        exact long
      · rw [own]
        exact printed

theorem upperChar_ne_nil (c : Char) : upperChar c ≠ [] := by
  rcases upper_cases c with ⟨u, single⟩ | several
  · rw [single.form]
    exact List.cons_ne_nil _ _
  · have long := several.long
    exact List.length_pos_iff.mp (by omega)

theorem upperChar_sigma : upperChar 'Σ' = ['Σ'] := by decide +kernel

theorem upperChar_small {c : Char} (small : c = 'σ' ∨ c = 'ς') : upperChar c = ['Σ'] ∧ lowerChar c = [c] := by
  rcases small with rfl | rfl
  · decide +kernel
  · decide +kernel

/-! ## Characters that come back -/

/-- Whether the upper case form of a character, lower cased, is its lower case form. A small sigma has to have the form
that its place asks for. -/
def ComesBack (before : List Char) (c : Char) (after : List Char) : Prop :=
  if c = 'σ' ∨ c = 'ς' then c = sigmaForm before after else (upperChar c).flatMap lowerChar = lowerChar c

/-- Whether all characters of `cs` come back, with `before`, latest character first, in front. -/
def AllComeBack : (before cs : List Char) → Prop
  | _, [] => True
  | before, c :: cs => ComesBack before c cs ∧ AllComeBack (c :: before) cs

instance (before : List Char) (c : Char) (after : List Char) : Decidable (ComesBack before c after) :=
  inferInstanceAs (Decidable (if c = 'σ' ∨ c = 'ς' then _ else _))

instance decidableAllComeBack : (before cs : List Char) → Decidable (AllComeBack before cs)
  | _, [] => isTrue trivial
  | before, c :: cs =>
    have := decidableAllComeBack (c :: before) cs
    inferInstanceAs (Decidable (ComesBack before c cs ∧ AllComeBack (c :: before) cs))

theorem UpperSeveral.not_comesBack {c : Char} (several : UpperSeveral c) (before after : List Char) :
    ¬ ComesBack before c after := by
  intro back
  have long := several.long
  unfold ComesBack at back
  split at back
  · next small =>
    rw [(upperChar_small small).1, List.length_singleton] at long
    omega
  · have grown := length_le_length_lowerChars (upperChar c)
    rw [back, length_lowerChar, if_neg several.noDot] at grown
    omega

/-- The iota subscript does not come back: its upper case form is that of the letter iota. -/
theorem ComesBack.not_mark {before after : List Char} {c : Char} (back : ComesBack before c after) : c ≠ '\u0345' := by
  rintro rfl
  unfold ComesBack at back
  rw [if_neg (by decide)] at back
  exact absurd back (by decide +kernel)

section

variable {c u : Char} {before before' after after' : List Char}

theorem UpperSingle.not_mark (single : UpperSingle c u)
    (same : lowerForm before' u after' = lowerForm before c after) : c ≠ '\u0345' := by
  rintro rfl
  have iota : upperChar '\u0345' = ['Ι'] := by decide +kernel
  rw [single.form] at iota
  obtain rfl := List.singleton_inj.mp iota
  revert same
  unfold lowerForm
  rw [if_neg (by decide), if_neg (by decide)]
  decide +kernel

/-- Between stretches of text that look the same to a sigma, the upper case form of a character has its lower case form
exactly when the character comes back. -/
theorem UpperSingle.lowerForm_iff (single : UpperSingle c u) (front : meetsCased before' = meetsCased before)
    (back : meetsCased after' = meetsCased after) :
    lowerForm before' u after' = lowerForm before c after ↔ ComesBack before c after := by
  have place := sigmaForm_congr front back
  have form := single.form
  unfold ComesBack
  by_cases small : c = 'σ' ∨ c = 'ς'
  · obtain ⟨capital, own⟩ := upperChar_small small
    rw [form] at capital
    obtain rfl := List.singleton_inj.mp capital
    have noSigma : c ≠ 'Σ' := by
      rcases small with rfl | rfl
      · decide
      · decide
    rw [if_pos small, lowerForm, if_pos rfl, lowerForm, if_neg noSigma, own, place, List.singleton_inj]
    exact eq_comm
  · rw [if_neg small, form, List.flatMap_singleton]
    by_cases sigma : c = 'Σ'
    · subst sigma
      rw [upperChar_sigma] at form
      obtain rfl := List.singleton_inj.mp form
      rw [lowerForm, lowerForm, if_pos rfl, if_pos rfl, place]
      exact iff_of_true rfl rfl
    · have noSigma : u ≠ 'Σ' := by
        intro capital
        rcases single.sigma capital with same | same
        · exact sigma same
        · exact small same
      rw [lowerForm, lowerForm, if_neg noSigma, if_neg sigma]

end

/-! ## Texts -/

theorem upperChars_cons (c : Char) (cs : List Char) : upperChars (c :: cs) = upperChar c ++ upperChars cs :=
  List.flatMap_cons

theorem upperChars_append (cs ds : List Char) : upperChars (cs ++ ds) = upperChars cs ++ upperChars ds :=
  List.flatMap_append

theorem UpperSingle.upperChars_cons {c u : Char} (single : UpperSingle c u) (cs : List Char) :
    upperChars (c :: cs) = u :: upperChars cs := by
  rw [Text.upperChars_cons, single.form, List.singleton_append]

theorem meetsCased_upperChars {before cs : List Char} (back : AllComeBack before cs) :
    meetsCased (upperChars cs) = meetsCased cs := by
  induction cs generalizing before with
  | nil => rfl
  | cons c cs ih =>
    obtain ⟨back, rest⟩ := back
    rcases upper_cases c with ⟨u, single⟩ | several
    · rw [single.upperChars_cons]
      exact meetsCased_congr (single.alike back.not_mark) (ih rest)
    · exact absurd back (several.not_comesBack _ _)

theorem length_lowerChar_le (c : Char) : (lowerChar c).length ≤ ((upperChar c).flatMap lowerChar).length := by
  by_cases dot : c = 'İ'
  · subst dot
    decide +kernel
  · have nonempty := List.length_pos_iff.mpr (upperChar_ne_nil c)
    have grown := length_le_length_lowerChars (upperChar c)
    rw [length_lowerChar, if_neg dot]
    omega

theorem length_lowerAfter_le (before before' cs : List Char) :
    (lowerAfter before cs).length ≤ (lowerAfter before' (upperChars cs)).length := by
  rw [length_lowerAfter, length_lowerAfter]
  induction cs with
  | nil => exact Nat.le_refl 0
  | cons c cs ih =>
    have first := length_lowerChar_le c
    rw [upperChars_cons, List.flatMap_append, List.flatMap_cons, List.length_append, List.length_append]
    omega

/-- The upper case form of a text and the text have one lower case form exactly when all characters come back. -/
theorem lowerAfter_upperChars_iff {before before' cs : List Char} (front : meetsCased before' = meetsCased before) :
    lowerAfter before' (upperChars cs) = lowerAfter before cs ↔ AllComeBack before cs := by
  induction cs generalizing before before' with
  | nil => exact iff_of_true rfl trivial
  | cons c cs ih =>
    rcases upper_cases c with ⟨u, single⟩ | several
    · rw [single.upperChars_cons, lowerAfter_eq, lowerAfter_eq, AllComeBack]
      constructor
      · intro same
        -- upper casing shortens neither the first form nor the rest, so both are as long as before
        have lengths : (lowerForm before' u (upperChars cs)).length = (lowerForm before c cs).length := by
          have total := congrArg List.length same
          have first := length_lowerChar_le c
          have behind := length_lowerAfter_le (c :: before) (u :: before') cs
          rw [List.length_append, List.length_append] at total
          rw [single.form, List.flatMap_singleton, ← length_lowerForm before c cs,
            ← length_lowerForm before' u (upperChars cs)] at first
          omega
        obtain ⟨head, tail⟩ := List.append_inj same lengths
        have alike := single.alike (single.not_mark head)
        have rest := (ih (meetsCased_congr alike front)).mp tail
        exact ⟨(single.lowerForm_iff front (meetsCased_upperChars rest)).mp head, rest⟩
      · rintro ⟨back, rest⟩
        have tail := (ih (meetsCased_congr (single.alike back.not_mark) front)).mpr rest
        rw [(single.lowerForm_iff front (meetsCased_upperChars rest)).mpr back, tail]
    · refine iff_of_false ?_ fun back => several.not_comesBack _ _ back.1
      intro same
      have total := congrArg List.length same
      have long := several.long
      have first := length_le_length_lowerChars (upperChar c)
      have behind := length_lowerAfter_le before before' cs
      rw [upperChars_cons, length_lowerAfter, length_lowerAfter, List.flatMap_append, List.flatMap_cons,
        List.length_append, List.length_append, length_lowerChar, if_neg several.noDot] at total
      rw [length_lowerAfter, length_lowerAfter] at behind
      omega

theorem lowerChars_upperChars_iff {cs : List Char} : lowerChars (upperChars cs) = lowerChars cs ↔ AllComeBack [] cs :=
  lowerAfter_upperChars_iff rfl

theorem ascii_comesBack : ∀ n < 0x80, (upperChar (Char.ofNat n)).flatMap lowerChar = lowerChar (Char.ofNat n) := by
  decide +kernel

theorem allComeBack_of_ascii {cs : List Char} (ascii : ∀ c ∈ cs, c.toNat < 0x80) (before : List Char) :
    AllComeBack before cs := by
  induction cs generalizing before with
  | nil => trivial
  | cons c cs ih =>
    have small := ascii c List.mem_cons_self
    refine ⟨?_, ih (fun d member => ascii d (List.mem_cons_of_mem c member)) (c :: before)⟩
    have noSigma : ¬ (c = 'σ' ∨ c = 'ς') := by
      rintro (rfl | rfl)
      · exact absurd small (by decide)
      · exact absurd small (by decide)
    have own := ascii_comesBack c.toNat small
    rw [Char.ofNat_toNat] at own
    rw [ComesBack, if_neg noSigma]
    exact own

/-! ## White space -/

/-- A character to which no casing does anything. It ends a word as far as sigmas are concerned. -/
structure Inert (c : Char) : Prop where
  visible : isCaseIgnorable c = false
  uncased : cased.mem c.toNat = false
  lowered : IsLowered c
  upper : upperChar c = [c]

theorem inert_of_isBlank {c : Char} (blank : isBlank c = true) : Inert c := by
  have inert := isInert_of_isBlank blank
  simp only [isInert, Bool.and_eq_true, Bool.not_eq_true', Option.isNone_iff_eq_none, decide_eq_true_eq] at inert
  obtain ⟨⟨⟨⟨⟨⟨visible, uncased⟩, unlowered⟩, unmoved⟩, unexpanded⟩, noDot⟩, noSigma⟩ := inert
  refine ⟨visible, uncased, ⟨fun same => noSigma (congrArg Char.toNat same), ?_⟩, ?_⟩
  · unfold lowerChar
    rw [if_neg fun same => noDot (congrArg Char.toNat same)]
    simp only [unlowered]
  · unfold upperChar
    simp only [unmoved, unexpanded, Option.getD_none]

theorem meetsCased_blank_cons {c : Char} (blank : isBlank c = true) (cs : List Char) :
    meetsCased (c :: cs) = false := by
  have inert := inert_of_isBlank blank
  rw [meetsCased_cons, inert.visible, inert.uncased]
  rfl

theorem meetsCased_append_blanks (cs : List Char) {back : List Char} (blank : AllBlank back) :
    meetsCased (cs ++ back) = meetsCased cs := by
  induction cs with
  | nil =>
    cases back with
    | nil => rfl
    | cons c back => exact meetsCased_blank_cons (blank c List.mem_cons_self) back
  | cons c cs ih => rw [List.cons_append, meetsCased_cons, meetsCased_cons, ih]

theorem lowerAfter_congr {before before' : List Char} (same : meetsCased before' = meetsCased before)
    (cs : List Char) : lowerAfter before' cs = lowerAfter before cs := by
  induction cs generalizing before before' with
  | nil => rfl
  | cons c cs ih =>
    rw [lowerAfter_eq, lowerAfter_eq, lowerForm_congr c same rfl, ih (meetsCased_congr ⟨rfl, rfl⟩ same)]

theorem lowerAfter_append_blanks (before cs : List Char) {back : List Char} (blank : AllBlank back) :
    lowerAfter before (cs ++ back) = lowerAfter before cs ++ back := by
  induction cs generalizing before with
  | nil => exact lowerAfter_of_isLowered (fun c member => (inert_of_isBlank (blank c member)).lowered) before
  | cons c cs ih =>
    have form := lowerForm_congr c (rfl : meetsCased before = _) (meetsCased_append_blanks cs blank)
    rw [List.cons_append, lowerAfter_eq, lowerAfter_eq, form, ih, List.append_assoc]

theorem lowerAfter_blanks_append {before front : List Char} (cs : List Char) (uncased : meetsCased before = false)
    (blank : AllBlank front) : lowerAfter before (front ++ cs) = front ++ lowerAfter [] cs := by
  induction front generalizing before with
  | nil => exact lowerAfter_congr uncased cs
  | cons c front ih =>
    have first := blank c List.mem_cons_self
    obtain ⟨noSigma, own⟩ := (inert_of_isBlank first).lowered
    have rest := ih (meetsCased_blank_cons first before) fun d member => blank d (List.mem_cons_of_mem c member)
    rw [List.cons_append, lowerAfter_eq, lowerForm, if_neg noSigma, own, rest]
    rfl

theorem upperChars_blanks {cs : List Char} (blank : AllBlank cs) : upperChars cs = cs := by
  induction cs with
  | nil => rfl
  | cons c cs ih =>
    have inert := inert_of_isBlank (blank c List.mem_cons_self)
    rw [upperChars_cons, inert.upper, ih fun d member => blank d (List.mem_cons_of_mem c member)]
    rfl

theorem isBlank_of_mem_upperChar {c d : Char} (printed : isBlank c = false) (member : d ∈ upperChar c) :
    isBlank d = false := by
  rcases upper_cases c with ⟨u, single⟩ | several
  · rw [single.form, List.mem_singleton] at member
    rw [member]
    exact single.printed printed
  · exact several.printed d member

theorem trimmed_upperChars {cs : List Char} (h : Trimmed cs) : Trimmed (upperChars cs) := by
  constructor
  · intro d first
    cases cs with
    | nil => cases first
    | cons c cs =>
      rw [upperChars_cons, List.head?_append_of_ne_nil _ (upperChar_ne_nil c)] at first
      exact isBlank_of_mem_upperChar (h.head c rfl) (List.mem_of_mem_head? first)
  · intro d last
    rcases List.eq_nil_or_concat cs with rfl | ⟨front, c, rfl⟩
    · cases last
    · rw [List.concat_eq_append] at h last
      have own : upperChars [c] = upperChar c := List.flatMap_singleton _ c
      rw [upperChars_append, own, List.getLast?_append_of_ne_nil _ (upperChar_ne_nil c)] at last
      exact isBlank_of_mem_upperChar (h.last c List.getLast?_concat) (List.mem_of_getLast? last)

/-- A casing that leaves white space at the ends alone, and makes none of anything else, goes with trimming. -/
theorem trim_casing {casing : List Char → List Char}
    (ends : ∀ front cs back, AllBlank front → AllBlank back → casing (front ++ cs ++ back) = front ++ casing cs ++ back)
    (inside : ∀ cs, Trimmed cs → Trimmed (casing cs)) (cs : List Char) : trim (casing cs) = casing (trim cs) := by
  obtain ⟨front, back, cut, blankFront, blankBack⟩ := exists_ends cs
  have outside : casing cs = front ++ casing (trim cs) ++ back := by
    rw [← ends front (trim cs) back blankFront blankBack, ← cut]
  rw [outside]
  exact trim_between blankFront (inside _ (trimmed_trim cs)) blankBack

theorem trim_lowerChars (cs : List Char) : trim (lowerChars cs) = lowerChars (trim cs) := by
  refine trim_casing ?_ (fun _ => trimmed_lowerChars) cs
  intro front cs back blankFront blankBack
  rw [lowerChars, lowerAfter_append_blanks _ _ blankBack, lowerAfter_blanks_append cs rfl blankFront]
  rfl

theorem trim_upperChars (cs : List Char) : trim (upperChars cs) = upperChars (trim cs) := by
  refine trim_casing ?_ (fun _ => trimmed_upperChars) cs
  intro front cs back blankFront blankBack
  rw [upperChars_append, upperChars_append, upperChars_blanks blankFront, upperChars_blanks blankBack]

end SpellLint.Text
