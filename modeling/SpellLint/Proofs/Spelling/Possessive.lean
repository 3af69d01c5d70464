import SpellLint.Proofs.Spelling.Unknown
import SpellLint.Proofs.Word.Refinement

/-! # Possessives

A possessive ending behind a text that ends in a letter or digit becomes a part of its last word and leaves the other
words as they are, because the apostrophe hides the ending from every cut in front of it
(`exists_words_possessive`). Taking the ending off gives the last word back (`possessiveStem_possessive`). So the
possessive of a text is clean exactly if its other words are and its last word is accepted in one of the two forms.
-/

set_option autoImplicit false

namespace SpellLint

open SpellLint.Text

/-- A text with a possessive ending. -/
def possessive (text : String) (apostrophe : Char) : String := text ++ String.ofList [apostrophe, 's']

/-! ## Words with an ending -/

namespace Word

variable {a : Char}

theorem wordsAfter_ending (apostrophe : isApostrophe a = true) : wordsAfter true true [a, 's'] = [[a, 's']] := by
  obtain rfl | rfl := (isApostrophe_iff a).mp apostrophe
  · decide +kernel
  · decide +kernel

theorem goesOn_ending (apostrophe : isApostrophe a = true) {c : Char} (alphanumeric : isAlphanumeric c = true) :
    goesOn true c [a, 's'] = true := by
  have letter : startsWord ['s'] = true := by decide +kernel
  rw [goesOn, isKept, alphanumeric, apostrophe, letter, startsNew, apostrophe]
  simp

/-- An ending behind a text that ends in a letter or digit is out of sight from the first character on. -/
theorem goesOn_append_ending (apostrophe : isApostrophe a = true) (c : Char) {d : Char} {cs : List Char}
    (ends : (d :: cs).getLast?.any isAlphanumeric = true) :
    goesOn true c (d :: cs ++ [a, 's']) = goesOn true c (d :: cs) := by
  cases cs with
  | nil =>
    have alphanumeric : isAlphanumeric d = true := by simpa using ends
    have hidden : (some a).filter isAlphanumeric = none := by simp [isAlphanumeric_of_isApostrophe apostrophe]
    rw [List.cons_append, List.nil_append, goesOn, goesOn, isKept_of_isAlphanumeric true _ _ alphanumeric,
      isKept_of_isAlphanumeric true _ _ alphanumeric, List.head?_cons, hidden]
    rfl
  | cons e cs => rfl

theorem consFirst_concat (c : Char) (front : List (List Char)) (word : List Char) :
    ∃ front' word', ∀ ending, consFirst c (front ++ [word ++ ending]) = front' ++ [word' ++ ending] := by
  cases front with
  | nil => exact ⟨[], c :: word, fun ending => rfl⟩
  | cons first front => exact ⟨(c :: first) :: front, word, fun ending => rfl⟩

/-- The ending is a part of the last word and changes no other word. -/
theorem wordsAfter_append_ending (apostrophe : isApostrophe a = true) (afterWord : Bool) {cs : List Char}
    (ends : cs.getLast?.any isAlphanumeric = true) :
    ∃ front word, wordsAfter true afterWord cs = front ++ [word] ∧
      wordsAfter true afterWord (cs ++ [a, 's']) = front ++ [word ++ [a, 's']] := by
  induction cs generalizing afterWord with
  | nil => cases ends
  | cons c cs ih =>
    -- Whether a word goes on is asked of two neighbours, and of the last character the ending is the neighbour.
    cases cs with
    | nil =>
      have alphanumeric : isAlphanumeric c = true := by simpa using ends
      have kept : ∀ rest, isKept true afterWord c rest = true := fun rest =>
        isKept_of_isAlphanumeric true afterWord rest alphanumeric
      refine ⟨[], [c], ?_, ?_⟩
      · exact wordsAfter_cons_of_kept (kept [])
      · rw [List.cons_append, List.nil_append, wordsAfter_cons_of_kept (kept [a, 's']),
          if_pos (goesOn_ending apostrophe alphanumeric), alphanumeric, wordsAfter_ending apostrophe]
        rfl
    | cons d cs =>
      have ends' : (d :: cs).getLast?.any isAlphanumeric = true := ends
      obtain ⟨front, word, words, longer⟩ := ih (isAlphanumeric c) ends'
      have same : isKept true afterWord c (d :: cs ++ [a, 's']) = isKept true afterWord c (d :: cs) := rfl
      rw [List.cons_append]
      cases kept : isKept true afterWord c (d :: cs) with
      | false =>
        rw [wordsAfter_cons_of_dropped kept, wordsAfter_cons_of_dropped (same.trans kept)]
        exact ⟨front, word, words, longer⟩
      | true =>
        rw [wordsAfter_cons_of_kept kept, wordsAfter_cons_of_kept (same.trans kept),
          goesOn_append_ending apostrophe c ends', words, longer]
        split
        · obtain ⟨front', word', cut⟩ := consFirst_concat c front word
          refine ⟨front', word', ?_, cut [a, 's']⟩
          simpa using cut []
        · exact ⟨[c] :: front, word, rfl, rfl⟩

theorem exists_split_possessive (apostrophe : isApostrophe a = true) {text : String}
    (ends : text.toList.getLast?.any isAlphanumeric = true) :
    ∃ front word, split text true = front ++ [word] ∧
      split (possessive text a) true = front ++ [possessive word a] := by
  obtain ⟨front, word, words, longer⟩ := wordsAfter_append_ending apostrophe false ends
  refine ⟨front.map String.ofList, String.ofList word, ?_, ?_⟩
  · rw [split, splitChars_eq_wordsAfter, words, List.map_append, List.map_singleton]
  · rw [split, possessive, String.toList_append, String.toList_ofList, splitChars_eq_wordsAfter, longer,
      List.map_append, List.map_singleton, String.ofList_append]
    rfl

theorem ne_empty_of_mem_split {keep : Bool} {text word : String} (member : word ∈ split text keep) : word ≠ "" := by
  obtain ⟨chars, listed, rfl⟩ := List.mem_map.mp member
  have starts := startsWord_of_mem_splitChars listed
  rintro blank
  rw [String.ofList_eq_empty_iff.mp blank] at starts
  cases starts

end Word

/-! ## Stems -/

section

variable {a : Char}

theorem possessive_ne (word : String) : possessive word a ≠ word := by
  intro same
  have lengths := congrArg (fun w => w.toList.length) same
  simp [possessive] at lengths

theorem exists_possessiveEnding (apostrophe : Word.isApostrophe a = true) :
    ∃ ending ∈ possessiveEndings, ending.toList = [a, 's'] := by
  obtain rfl | rfl := (Word.isApostrophe_iff a).mp apostrophe
  · exact ⟨"'s", by decide, rfl⟩
  · exact ⟨"’s", by decide, rfl⟩

/-- The ending is its own lower case form, whatever lower casing makes of the word in front. -/
theorem suffix_lower_possessive (apostrophe : Word.isApostrophe a = true) (word : String) :
    [a, 's'] <:+ (lower (possessive word a)).toList := by
  have lowered : ∀ c ∈ [a, 's'], IsLowered c := by
    have letter : IsLowered 's' := by decide +kernel
    refine List.forall_mem_cons.mpr ⟨?_, List.forall_mem_singleton.mpr letter⟩
    obtain rfl | rfl := (Word.isApostrophe_iff a).mp apostrophe
    · decide +kernel
    · decide +kernel
  obtain ⟨front, cut⟩ := exists_lowerAfter_append [] word.toList [a, 's']
  rw [lowerAfter_of_isLowered lowered] at cut
  refine ⟨front, ?_⟩
  rw [lower, String.toList_ofList, possessive, String.toList_append, String.toList_ofList, lowerChars, cut]

theorem possessiveStem_possessive (apostrophe : Word.isApostrophe a = true) (word : String) :
    possessiveStem (possessive word a) = word := by
  obtain ⟨ending, member, chars⟩ := exists_possessiveEnding apostrophe
  have ends : possessiveEndings.any
      (fun ending => ending.toList.isSuffixOf (lower (possessive word a)).toList) = true := by
    refine List.any_eq_true.mpr ⟨ending, member, ?_⟩
    rw [chars, List.isSuffixOf_iff_suffix]
    exact suffix_lower_possessive apostrophe word
  rw [possessiveStem, if_pos ends]
  simp [possessive]

/-- The possessive of a word is accepted if it is known itself or the word is. -/
theorem isKnown_possessive (apostrophe : Word.isApostrophe a = true) (d : Dictionary) {word : String}
    (filled : word ≠ "") :
    isKnown d true (possessive word a) = (d.contains (possessive word a) || d.contains word) := by
  have stem : (word != "") = true := bne_iff_ne.mpr filled
  have shorter : (word != possessive word a) = true := bne_iff_ne.mpr (possessive_ne word).symm
  rw [isKnown, possessiveStem_possessive apostrophe, stem, shorter]
  simp

end

/-! ## Texts -/

/-- The words that are looked up: all but lone digits. -/
def lookedUp (words : List String) : List String := words.filter (!Word.isLoneDigit ·.toList)

theorem segment_eq_lookedUp (text : String) (keep : Bool) :
    Word.segment text keep = lookedUp (Word.split text keep) := by
  unfold Word.segment Word.segmentChars lookedUp Word.split
  rw [List.filter_map]
  congr 2
  funext word
  rw [Function.comp_apply, String.toList_ofList]

theorem lookedUp_possessive {a : Char} (words : List String) {word : String} (filled : word ≠ "") :
    lookedUp (words ++ [possessive word a]) = lookedUp words ++ [possessive word a] := by
  have long : Word.isLoneDigit (possessive word a).toList = false := by
    obtain ⟨c, cs, chars⟩ := List.exists_cons_of_ne_nil (mt String.toList_eq_nil_iff.mp filled)
    rw [possessive, String.toList_append, String.toList_ofList, chars]
    cases cs <;> rfl
  rw [lookedUp, List.filter_append, List.filter_cons_of_pos (by simp [long]), List.filter_nil, lookedUp]

/-- The possessive of a text has the words of the text, the last one with the ending. It is unknown if neither it nor the
word without the ending is in the dictionary; the other words are unknown as before. -/
theorem possessive_law (text : String) (ends : text.toList.getLast?.any isAlphanumeric = true) (a : Char)
    (apostrophe : a = '\'' ∨ a = '’') (d : Dictionary) :
    ∃ front word, Word.split text true = front ++ [word] ∧
      Word.segment (possessive text a) true = lookedUp front ++ [possessive word a] ∧
      (∀ w, w ∈ unknownWords (possessive text a) d true ↔
        w ∈ lookedUp front ∧ isKnown d true w = false ∨
          w = possessive word a ∧ d.contains (possessive word a) = false ∧ d.contains word = false) ∧
      (d.contains word = true →
        ((unknownWords (possessive text a) d true).isEmpty = true ↔ ∀ w ∈ lookedUp front, isKnown d true w = true)) := by
  have mark : Word.isApostrophe a = true := (Word.isApostrophe_iff a).mpr apostrophe
  obtain ⟨front, word, words, longer⟩ := Word.exists_split_possessive mark ends
  have listed : word ∈ Word.split text true := by
    rw [words]
    exact List.mem_append_right front List.mem_cons_self
  have filled : word ≠ "" := Word.ne_empty_of_mem_split listed
  have segments : Word.segment (possessive text a) true = lookedUp front ++ [possessive word a] := by
    rw [segment_eq_lookedUp, longer, lookedUp_possessive front filled]
  have unknown : ∀ w, w ∈ unknownWords (possessive text a) d true ↔
      w ∈ lookedUp front ∧ isKnown d true w = false ∨
        w = possessive word a ∧ d.contains (possessive word a) = false ∧ d.contains word = false := by
    intro w
    rw [mem_unknownWords, segments, List.mem_append, List.mem_singleton, or_and_right]
    refine or_congr_right (and_congr_right ?_)
    rintro rfl
    rw [isKnown_possessive mark d filled, Bool.or_eq_false_iff]
  refine ⟨front, word, words, segments, unknown, ?_⟩
  intro known
  rw [Std.TreeSet.isEmpty_iff_forall_not_mem]
  constructor
  · intro none w member
    by_contra stranger
    exact none w ((unknown w).mpr (.inl ⟨member, Bool.eq_false_iff.mpr stranger⟩))
  · intro clean w member
    rcases (unknown w).mp member with ⟨listed, stranger⟩ | ⟨-, -, stranger⟩
    · rw [clean w listed] at stranger
      cases stranger
    · rw [known] at stranger
      cases stranger

theorem possessive_law_acronym :
    "parse 7 getHTTP".toList.getLast?.any isAlphanumeric = true ∧
      Word.segment "parse 7 getHTTP’s" true = ["parse", "get", "HTTP’s"] ∧
      ∀ w, w ∈ unknownWords "parse 7 getHTTP’s" (.ofWords ["parse", "http"]) true ↔ w = "get" := by
  have ends : "parse 7 getHTTP".toList.getLast?.any isAlphanumeric = true := by decide +kernel
  obtain ⟨front, word, words, segments, unknown, -⟩ :=
    possessive_law "parse 7 getHTTP" ends '’' (.inr rfl) (.ofWords ["parse", "http"])
  have cut : Word.split "parse 7 getHTTP" true = ["parse", "7", "get"] ++ ["HTTP"] := by decide +kernel
  obtain ⟨rfl, last⟩ := List.append_inj' (words.symm.trans cut) rfl
  obtain rfl : word = "HTTP" := List.singleton_inj.mp last
  have others : lookedUp ["parse", "7", "get"] = ["parse", "get"] := by decide +kernel
  have text : possessive "parse 7 getHTTP" '’' = "parse 7 getHTTP’s" := by decide +kernel
  rw [others, text] at segments
  refine ⟨ends, segments, ?_⟩
  intro w
  have known : Dictionary.contains (.ofWords ["parse", "http"]) "HTTP" = true := by decide +kernel
  have parse : isKnown (.ofWords ["parse", "http"]) true "parse" = true := by decide +kernel
  have get : isKnown (.ofWords ["parse", "http"]) true "get" = false := by decide +kernel
  rw [← text, unknown w, others, known]
  constructor
  · rintro (⟨listed, stranger⟩ | ⟨-, -, stranger⟩)
    · rcases List.mem_pair.mp listed with rfl | rfl
      · rw [parse] at stranger
        cases stranger
      · rfl
    · cases stranger
  · rintro rfl
    exact .inl ⟨by simp, get⟩

end SpellLint
