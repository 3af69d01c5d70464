import Mathlib.Tactic.Common
import SpellLint.Word.Split

/-! # Words in one pass

Splitting first cuts a text into stretches and then each stretch into words. `wordsAfter` is both at once, for the
rest of a text behind a given character, and it has a recursion of its own: a character that is not kept is dropped,
and a character that is kept either goes on into the next word (`goesOn`) or is a word by itself so far.
-/

set_option autoImplicit false

namespace SpellLint.Word

open SpellLint.Text

/-! ## Apostrophes -/

theorem isApostrophe_iff (c : Char) : isApostrophe c = true ↔ c = '\'' ∨ c = '’' := by
  simp [isApostrophe]

theorem isAlphanumeric_of_isApostrophe {c : Char} (h : isApostrophe c = true) : isAlphanumeric c = false := by
  obtain rfl | rfl := (isApostrophe_iff c).mp h
  · decide +kernel
  · decide +kernel

theorem isApostrophe_of_isAlphanumeric {c : Char} (h : isAlphanumeric c = true) : isApostrophe c = false := by
  by_contra apostrophe
  rw [isAlphanumeric_of_isApostrophe (by simpa using apostrophe)] at h
  cases h

theorem isLower_of_isApostrophe {c : Char} (h : isApostrophe c = true) : isLower c = false := by
  obtain rfl | rfl := (isApostrophe_iff c).mp h
  · decide +kernel
  · decide +kernel

theorem isKept_of_isAlphanumeric (keep afterWord : Bool) {c : Char} (rest : List Char)
    (h : isAlphanumeric c = true) : isKept keep afterWord c rest = true := by
  simp [isKept, h]

theorem isAlphanumeric_or_isApostrophe {keep afterWord : Bool} {c : Char} {rest : List Char}
    (h : isKept keep afterWord c rest = true) : isAlphanumeric c = true ∨ isApostrophe c = true := by
  unfold isKept at h
  grind

/-! ## The words of the rest of a text -/

/-- The words of a text behind a character that is a letter or digit or not. -/
def wordsAfter (keep afterWord : Bool) (cs : List Char) : List (List Char) :=
  (stretchesAfter keep afterWord cs).flatMap cutStretch

theorem flatMap_filter_cutStretch (stretches : List (List Char)) :
    (stretches.filter (· ≠ [])).flatMap cutStretch = stretches.flatMap cutStretch := by
  induction stretches with
  | nil => rfl
  | cons stretch rest ih =>
    cases stretch with
    | nil => simpa [cutStretch] using ih
    | cons c cs => simpa using ih

theorem splitChars_eq_wordsAfter (keep : Bool) (cs : List Char) : splitChars keep cs = wordsAfter keep false cs :=
  flatMap_filter_cutStretch (stretchesAfter keep false cs)

/-- Whether the word of a kept character goes on with what follows: the next character is kept too and starts no new
word. -/
def goesOn (keep : Bool) (c : Char) : List Char → Bool
  | [] => false
  | d :: rest => isKept keep (isAlphanumeric c) d rest && !startsNew c d (rest.head?.filter isAlphanumeric)

theorem exists_next_of_goesOn {keep : Bool} {c : Char} {cs : List Char} (h : goesOn keep c cs = true) :
    ∃ d rest, cs = d :: rest ∧ isKept keep (isAlphanumeric c) d rest = true ∧
      startsNew c d (rest.head?.filter isAlphanumeric) = false := by
  cases cs with
  | nil => cases h
  | cons d rest =>
    rw [goesOn, Bool.and_eq_true, Bool.not_eq_true'] at h
    exact ⟨d, rest, rfl, h⟩

/-! ## First stretches -/

theorem stretchesAfter_ne_nil (keep afterWord : Bool) (cs : List Char) : stretchesAfter keep afterWord cs ≠ [] := by
  cases cs with
  | nil => simp [stretchesAfter]
  | cons c rest =>
    unfold stretchesAfter
    split
    · cases stretchesAfter keep (isAlphanumeric c) rest <;> simp [consFirst]
    · simp

/-- The next character, if it is kept. -/
def nextKept (keep afterWord : Bool) : List Char → Option Char
  | [] => none
  | c :: rest => if isKept keep afterWord c rest then some c else none

theorem head?_of_stretchesAfter {keep afterWord : Bool} {cs first : List Char} {others : List (List Char)}
    (h : stretchesAfter keep afterWord cs = first :: others) : first.head? = nextKept keep afterWord cs := by
  cases cs with
  | nil =>
    obtain ⟨rfl, -⟩ := List.cons.inj h
    rfl
  | cons c rest =>
    obtain ⟨next, more, shape⟩ := List.exists_cons_of_ne_nil (stretchesAfter_ne_nil keep (isAlphanumeric c) rest)
    rw [stretchesAfter, shape] at h
    by_cases kept : isKept keep afterWord c rest = true
    · rw [if_pos kept] at h
      obtain ⟨rfl, -⟩ := List.cons.inj h
      simp [nextKept, kept]
    · rw [if_neg kept] at h
      obtain ⟨rfl, -⟩ := List.cons.inj h
      simp [nextKept, kept]

theorem cutStretch_ne_nil (c : Char) (cs : List Char) : cutStretch (c :: cs) ≠ [] := by
  cases cs with
  | nil => simp [cutStretch]
  | cons d rest =>
    rw [cutStretch]
    split
    · simp
    · cases cutStretch (d :: rest) <;> simp [consFirst]

theorem consFirst_append (c : Char) {pieces : List (List Char)} (more : List (List Char)) (h : pieces ≠ []) :
    consFirst c (pieces ++ more) = consFirst c pieces ++ more := by
  cases pieces with
  | nil => exact absurd rfl h
  | cons piece rest => rfl

/-! ## The recursion -/

theorem wordsAfter_cons_of_dropped {keep afterWord : Bool} {c : Char} {cs : List Char}
    (h : isKept keep afterWord c cs = false) :
    wordsAfter keep afterWord (c :: cs) = wordsAfter keep (isAlphanumeric c) cs := by
  have separator : isAlphanumeric c = false := by
    by_contra alphanumeric
    rw [isKept_of_isAlphanumeric keep afterWord cs (by simpa using alphanumeric)] at h
    exact Bool.noConfusion h
  unfold wordsAfter
  rw [stretchesAfter, h, separator]
  rfl

/-- Only letters and digits have a case, so it does not matter whether an apostrophe follows. -/
theorem startsNew_nextKept (keep : Bool) (c d : Char) (rest : List Char) :
    startsNew c d (nextKept keep (isAlphanumeric d) rest) = startsNew c d (rest.head?.filter isAlphanumeric) := by
  have same : (nextKept keep (isAlphanumeric d) rest).any isLower =
      (rest.head?.filter isAlphanumeric).any isLower := by
    cases rest with
    | nil => rfl
    | cons e more =>
      by_cases alphanumeric : isAlphanumeric e = true
      · simp [nextKept, isKept_of_isAlphanumeric keep _ more alphanumeric, alphanumeric]
      · by_cases kept : isKept keep (isAlphanumeric d) e more = true
        · have apostrophe := (isAlphanumeric_or_isApostrophe kept).resolve_left alphanumeric
          simp [nextKept, kept, alphanumeric, isLower_of_isApostrophe apostrophe]
        · simp [nextKept, kept, alphanumeric]
  unfold startsNew
  rw [same]

theorem wordsAfter_cons_of_kept {keep afterWord : Bool} {c : Char} {cs : List Char}
    (h : isKept keep afterWord c cs = true) :
    wordsAfter keep afterWord (c :: cs) =
      if goesOn keep c cs then consFirst c (wordsAfter keep (isAlphanumeric c) cs)
      else [c] :: wordsAfter keep (isAlphanumeric c) cs := by
  unfold wordsAfter
  rw [stretchesAfter, if_pos h]
  cases cs with
  | nil => rfl
  | cons d rest =>
    obtain ⟨first, others, shape⟩ := List.exists_cons_of_ne_nil (stretchesAfter_ne_nil keep (isAlphanumeric d) rest)
    have next := head?_of_stretchesAfter shape
    rw [stretchesAfter, shape]
    by_cases kept : isKept keep (isAlphanumeric c) d rest = true
    · have one : consFirst d (first :: others) = (d :: first) :: others := rfl
      have two : consFirst c ((d :: first) :: others) = (c :: d :: first) :: others := rfl
      rw [if_pos kept, one, two, List.flatMap_cons, List.flatMap_cons, cutStretch, next, startsNew_nextKept,
        goesOn, kept, Bool.true_and]
      by_cases new : startsNew c d (rest.head?.filter isAlphanumeric) = true
      · simp [new]
      · rw [if_neg new, consFirst_append c _ (cutStretch_ne_nil d first)]
        simp [new]
    · rw [if_neg kept, goesOn]
      simp only [kept, Bool.false_and]
      rfl

end SpellLint.Word
