import SpellLint.Proofs.Word.Positions
import SpellLint.Proofs.Word.Separation

/-! # Words split again

A word that has been cut out of a text has lost what stood around it. Splitting it again, with apostrophes kept or not,
still gives just what splitting the text gives in its place (`flatMap_splitChars`): the character behind a word can only
ask for a cut inside it, and there is none.

* `segment_joined`: words joined by separators are split into themselves.
* `plain_words_of_kept`: keeping apostrophes groups the words of the plain splitting.
-/

set_option autoImplicit false

namespace SpellLint.Word

open SpellLint.Text

/-! ## The first word -/

/-- Behind a letter or digit a text is split like behind anything else, unless it starts with an apostrophe. -/
theorem wordsAfter_of_startsWord {keep afterWord : Bool} {cs : List Char} (h : startsWord cs = true) :
    wordsAfter keep afterWord cs = wordsAfter keep true cs := by
  cases cs with
  | nil => cases h
  | cons c cs =>
    have kept : ∀ before, isKept keep before c cs = true := fun before => isKept_of_isAlphanumeric keep before cs h
    rw [wordsAfter_cons_of_kept (kept afterWord), wordsAfter_cons_of_kept (kept true)]

/-- The first word starts with the first character, and ends there or goes on with the second. -/
theorem exists_first_word {keep afterWord : Bool} {c : Char} {cs : List Char}
    (kept : isKept keep afterWord c cs = true) :
    ∃ word words, wordsAfter keep afterWord (c :: cs) = (c :: word) :: words ∧
      word.head? = if goesOn keep c cs then cs.head? else none := by
  rw [wordsAfter_cons_of_kept kept]
  by_cases goes : goesOn keep c cs = true
  · obtain ⟨d, rest, rfl, next, -⟩ := exists_next_of_goesOn goes
    rw [if_pos goes, if_pos goes, wordsAfter_cons_of_kept next]
    split
    · cases wordsAfter keep (isAlphanumeric d) rest with
      | nil => exact ⟨[d], [], rfl, rfl⟩
      | cons word words => exact ⟨d :: word, words, rfl, rfl⟩
    · exact ⟨[d], _, rfl, rfl⟩
  · rw [if_neg goes, if_neg goes]
    exact ⟨[], _, rfl, rfl⟩

theorem goesOn_of_isApostrophe {keep afterWord : Bool} {c : Char} {cs : List Char} (apostrophe : isApostrophe c = true)
    (kept : isKept keep afterWord c cs = true) : startsWord cs = true ∧ goesOn keep c cs = true := by
  have separator := isAlphanumeric_of_isApostrophe apostrophe
  have starts : startsWord cs = true := by
    simp only [isKept, separator, Bool.false_or, Bool.and_eq_true] at kept
    exact kept.2
  cases cs with
  | nil => cases starts
  | cons d cs =>
    refine ⟨starts, ?_⟩
    rw [goesOn, isKept_of_isAlphanumeric keep _ cs starts]
    simp [startsNew, apostrophe]

/-- Keeping fewer apostrophes keeps no more characters. -/
theorem isKept_of_fewer {keep keep' : Bool} (fewer : keep' = true → keep = true) {afterWord : Bool} {c : Char}
    {cs : List Char} (kept : isKept keep' afterWord c cs = true) : isKept keep afterWord c cs = true := by
  unfold isKept at *
  grind

theorem goesOn_of_fewer {keep keep' : Bool} (fewer : keep' = true → keep = true) {c : Char} {cs : List Char}
    (goes : goesOn keep' c cs = true) : goesOn keep c cs = true := by
  cases cs with
  | nil => exact goes
  | cons d cs =>
    rw [goesOn, Bool.and_eq_true] at *
    exact ⟨isKept_of_fewer fewer goes.1, goes.2⟩

theorem startsNew_none {c d : Char} {after : Option Char} (joined : startsNew c d after = false) :
    startsNew c d none = false := by
  unfold startsNew at *
  grind

theorem startsWord_eq (cs : List Char) : startsWord cs = cs.head?.any isAlphanumeric := by
  cases cs with
  | nil => rfl
  | cons c cs => rw [startsWord, List.head?_cons, Option.any_some]

/-- A word goes on inside as it does in the text, although what follows the word is cut off. -/
theorem goesOn_first_word {keep keep' : Bool} {c d : Char} {cs word : List Char}
    (goes : goesOn keep c (d :: cs) = true) (same : word.head? = if goesOn keep d cs then cs.head? else none) :
    goesOn keep' c (d :: word) = goesOn keep' c (d :: cs) := by
  rw [goesOn, Bool.and_eq_true, Bool.not_eq_true'] at goes
  obtain ⟨kept, joined⟩ := goes
  have joined' : startsNew c d (word.head?.filter isAlphanumeric) = false := by
    rw [same]
    split
    · exact joined
    · exact startsNew_none joined
  have kept' : isKept keep' (isAlphanumeric c) d word = isKept keep' (isAlphanumeric c) d cs := by
    rcases isAlphanumeric_or_isApostrophe kept with alphanumeric | apostrophe
    · rw [isKept_of_isAlphanumeric keep' _ word alphanumeric, isKept_of_isAlphanumeric keep' _ cs alphanumeric]
    · obtain ⟨-, goes⟩ := goesOn_of_isApostrophe apostrophe kept
      rw [if_pos goes] at same
      unfold isKept
      rw [startsWord_eq word, same, startsWord_eq cs]
  rw [goesOn, goesOn, joined, joined', kept']

/-! ## Splitting the words -/

section

variable {keep keep' : Bool} {c : Char} {cs : List Char}

/-- The step at a character with which a word ends: it is split from the rest once more. -/
theorem wordsAfter_single {afterWord afterWord' : Bool} (alphanumeric : isAlphanumeric c = true)
    (stops : goesOn keep c cs = false) :
    wordsAfter keep afterWord (c :: cs) = wordsAfter keep afterWord' [c] ++ wordsAfter keep true cs := by
  rw [wordsAfter_cons_of_kept (isKept_of_isAlphanumeric keep afterWord cs alphanumeric),
    wordsAfter_cons_of_kept (isKept_of_isAlphanumeric keep afterWord' [] alphanumeric), stops, alphanumeric]
  rfl

/-- The step at a character with which a word goes on. -/
theorem wordsAfter_longer {afterWord : Bool} {d : Char} {word : List Char}
    (kept : isKept keep afterWord c (d :: cs) = true) (goes : goesOn keep c (d :: cs) = true)
    (same : word.head? = if goesOn keep d cs then cs.head? else none) {more : List (List Char)}
    (ih : wordsAfter keep' true (d :: word) ++ more = wordsAfter keep' (isAlphanumeric c) (d :: cs)) :
    wordsAfter keep' true (c :: d :: word) ++ more = wordsAfter keep' afterWord (c :: d :: cs) := by
  have kept' : isKept keep' true c (d :: word) = isKept keep' afterWord c (d :: cs) := by
    unfold isKept at kept ⊢
    rw [startsWord_eq, startsWord_eq] at *
    grind
  have behind : wordsAfter keep' (isAlphanumeric c) (d :: word) = wordsAfter keep' true (d :: word) := by
    rcases isAlphanumeric_or_isApostrophe kept with alphanumeric | apostrophe
    · rw [alphanumeric]
    · exact wordsAfter_of_startsWord (goesOn_of_isApostrophe apostrophe kept).1
  have goes' : goesOn keep' c (d :: word) = goesOn keep' c (d :: cs) := goesOn_first_word goes same
  rw [← behind] at ih
  cases inside : isKept keep' afterWord c (d :: cs) with
  | false => rw [wordsAfter_cons_of_dropped inside, wordsAfter_cons_of_dropped (kept'.trans inside), ih]
  | true =>
    rw [wordsAfter_cons_of_kept inside, wordsAfter_cons_of_kept (kept'.trans inside), goes', ← ih]
    split
    · next goes =>
      exact (consFirst_append c more (wordsAfter_ne_nil_of_goesOn (goes'.trans goes))).symm
    · rfl

end

theorem flatMap_wordsAfter {keep keep' : Bool} (fewer : keep' = true → keep = true) (afterWord : Bool)
    (cs : List Char) :
    (wordsAfter keep afterWord cs).flatMap (wordsAfter keep' true) = wordsAfter keep' afterWord cs := by
  induction cs generalizing afterWord with
  | nil => rfl
  | cons c cs ih =>
    cases kept : isKept keep afterWord c cs with
    | false =>
      have kept' : isKept keep' afterWord c cs = false :=
        Bool.eq_false_iff.mpr fun kept' => Bool.eq_false_iff.mp kept (isKept_of_fewer fewer kept')
      rw [wordsAfter_cons_of_dropped kept, wordsAfter_cons_of_dropped kept', ih]
    | true =>
      rw [wordsAfter_cons_of_kept kept]
      split
      · next goes =>
        obtain ⟨d, cs, rfl, next, -⟩ := exists_next_of_goesOn goes
        -- `c` is put in front of the first word behind it, which is all that is split differently now.
        obtain ⟨word, words, shape, same⟩ := exists_first_word next
        have rest := ih (isAlphanumeric c)
        rw [shape, List.flatMap_cons] at rest
        rw [shape, consFirst, List.flatMap_cons]
        exact wordsAfter_longer kept goes same rest
      · next stops =>
        have alphanumeric : isAlphanumeric c = true :=
          (isAlphanumeric_or_isApostrophe kept).resolve_right fun apostrophe =>
            stops (goesOn_of_isApostrophe apostrophe kept).2
        have stops' : goesOn keep' c cs = false :=
          Bool.eq_false_iff.mpr fun goes => stops (goesOn_of_fewer fewer goes)
        have rest := ih (isAlphanumeric c)
        rw [alphanumeric] at rest ⊢
        rw [List.flatMap_cons, rest, wordsAfter_single alphanumeric stops']

/-! ## The words of a text -/

section

variable {keep keep' : Bool}

/-- Words start with a letter or a digit. -/
theorem startsWord_of_mem_splitChars {text word : List Char} (member : word ∈ splitChars keep text) :
    startsWord word = true := by
  obtain ⟨blocks, areBlocks, words⟩ := splitChars_blocks keep text
  rw [words] at member
  obtain ⟨b, hb, rfl⟩ := List.mem_map.mp member
  have filled := areBlocks.nonempty b hb
  have kept : Kept keep text b.start := (areBlocks.covers _).mp ⟨b, hb, Nat.le_refl _, filled⟩
  rw [startsWord_eq, head?_slice filled]
  rcases kept with alphanumeric | ⟨-, apostrophe, -⟩
  · exact alphanumeric
  · exact absurd apostrophe (Bool.eq_false_iff.mp (not_isApostrophe_start areBlocks hb))

theorem flatMap_splitChars (fewer : keep' = true → keep = true) (text : List Char) :
    (splitChars keep text).flatMap (splitChars keep') = splitChars keep' text := by
  have same : ∀ word ∈ splitChars keep text, splitChars keep' word = wordsAfter keep' true word := by
    intro word member
    rw [splitChars_eq_wordsAfter, wordsAfter_of_startsWord (startsWord_of_mem_splitChars member)]
  rw [List.flatMap_congr same, splitChars_eq_wordsAfter, splitChars_eq_wordsAfter, flatMap_wordsAfter fewer]

/-- A lone digit is dropped again when it is split. -/
theorem segmentChars_of_isLoneDigit {word : List Char} (digit : isLoneDigit word = true) :
    segmentChars keep word = [] := by
  obtain ⟨c, rfl⟩ : ∃ c, word = [c] := by
    unfold isLoneDigit at digit
    split at digit
    · next c => exact ⟨c, rfl⟩
    · cases digit
  unfold segmentChars
  rw [splitChars_eq_wordsAfter]
  cases kept : isKept keep false c [] with
  | false =>
    rw [wordsAfter_cons_of_dropped kept]
    rfl
  | true =>
    have alone : wordsAfter keep false [c] = [[c]] := wordsAfter_cons_of_kept kept
    rw [alone, List.filter_cons_of_neg (by simp [digit]), List.filter_nil]

theorem flatMap_filter_isLoneDigit (words : List (List Char)) :
    (words.filter (!isLoneDigit ·)).flatMap (segmentChars keep) = words.flatMap (segmentChars keep) := by
  induction words with
  | nil => rfl
  | cons word words ih =>
    cases digit : isLoneDigit word with
    | false => rw [List.filter_cons_of_pos (by simp [digit]), List.flatMap_cons, List.flatMap_cons, ih]
    | true =>
      rw [List.filter_cons_of_neg (by simp [digit]), ih, List.flatMap_cons, segmentChars_of_isLoneDigit digit,
        List.nil_append]

theorem flatMap_segmentChars (fewer : keep' = true → keep = true) (text : List Char) :
    (segmentChars keep text).flatMap (segmentChars keep') = segmentChars keep' text :=
  calc (segmentChars keep text).flatMap (segmentChars keep')
    _ = (splitChars keep text).flatMap (segmentChars keep') := flatMap_filter_isLoneDigit _
    _ = ((splitChars keep text).flatMap (splitChars keep')).filter (!isLoneDigit ·) := by
      rw [List.filter_flatMap]
      rfl
    _ = segmentChars keep' text := by
      rw [flatMap_splitChars fewer]
      rfl

end

/-! ## Texts -/

theorem split_ofList (word : List Char) (keep : Bool) :
    split (String.ofList word) keep = (splitChars keep word).map String.ofList := by
  rw [split, String.toList_ofList]

theorem segment_ofList (word : List Char) (keep : Bool) :
    segment (String.ofList word) keep = (segmentChars keep word).map String.ofList := by
  rw [segment, String.toList_ofList]

/-- Words with separators between them are split into themselves. -/
theorem segment_joined (text sep : String) (keep : Bool) (filled : sep ≠ "")
    (separates : ∀ c ∈ sep.toList, Separates keep c) :
    segment (sep.intercalate (segment text keep)) keep = segment text keep := by
  have filled' : sep.toList ≠ [] := fun nothing => filled (String.toList_eq_nil_iff.mp nothing)
  have own : ((segmentChars keep text.toList).map String.ofList).map String.toList = segmentChars keep text.toList := by
    simp
  unfold segment
  rw [String.toList_intercalate, own, segmentChars_intercalate filled' separates, flatMap_segmentChars id]

theorem segment_joined_identifiers :
    segment "API's getHTTPCode2x" true = ["API's", "get", "HTTP", "Code", "x"] ∧ (∀ c ∈ ", ".toList, Separates true c) ∧
      segment (", ".intercalate (segment "API's getHTTPCode2x" true)) true = segment "API's getHTTPCode2x" true := by
  have all : ", ".toList.all (fun c => Separates true c) = true := by decide +kernel
  have separates : ∀ c ∈ ", ".toList, Separates true c := by
    simpa only [List.all_eq_true, decide_eq_true_eq] using all
  exact ⟨by decide +kernel, separates, segment_joined _ _ true (by decide) separates⟩

/-- Splitting every word once more, now at its apostrophes too, splits the text at its apostrophes: keeping them only
groups words. -/
theorem plain_words_of_kept (text : String) :
    (segment text true).flatMap (segment · false) = segment text false ∧
      (split text true).flatMap (split · false) = split text false := by
  have fewer : false = true → true = true := fun _ => rfl
  constructor
  · rw [segment, segment, List.flatMap_map]
    simp only [segment_ofList]
    rw [← List.map_flatMap, flatMap_segmentChars fewer]
  · rw [split, split, List.flatMap_map]
    simp only [split_ofList]
    rw [← List.map_flatMap, flatMap_splitChars fewer]

end SpellLint.Word
