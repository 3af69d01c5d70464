import SpellLint.Proofs.Word.Blocks
import SpellLint.Proofs.Word.OnePass

/-! # Words as blocks of a text

Splitting in terms of positions. A position of a text is kept or not (`Kept`), and between two neighbouring kept
positions a new word starts or not (`Parts`); both are said of the whole text and not of stretches. The words are
the blocks that these two ask for, in order (`split_eq_slices`). So no word is empty, none starts or ends with an
apostrophe, and behind one another they are the kept characters of the text.
-/

set_option autoImplicit false

namespace SpellLint.Word

open SpellLint.Text

/-- Whether a letter or digit stands at a position. -/
def HasAlphanumeric (text : List Char) (i : Nat) : Prop := (text[i]?.any isAlphanumeric) = true

instance (text : List Char) (i : Nat) : Decidable (HasAlphanumeric text i) :=
  inferInstanceAs (Decidable (_ = true))

/-- Whether the character at a position belongs to a word: a letter or digit, or an apostrophe between two of them
if apostrophes are kept. -/
def Kept (keep : Bool) (text : List Char) (i : Nat) : Prop :=
  HasAlphanumeric text i ∨
    keep = true ∧ (text[i]?.any isApostrophe) = true ∧ (0 < i ∧ HasAlphanumeric text (i - 1)) ∧
      HasAlphanumeric text (i + 1)

instance (keep : Bool) (text : List Char) (i : Nat) : Decidable (Kept keep text i) :=
  inferInstanceAs (Decidable (_ ∨ _))

/-- Whether a new word starts at the second of two characters, the third of which is `after`. -/
def PartsBefore (a b : Char) (after : Option Char) : Prop :=
  isApostrophe a = false ∧ isApostrophe b = false ∧
    (isDigit a ≠ isDigit b ∨ isLower a = true ∧ isUpper b = true ∨
      isUpper a = true ∧ isUpper b = true ∧ ∃ c, after = some c ∧ isAlphanumeric c = true ∧ isLower c = true)

/-- Whether a new word starts behind a position. -/
def Parts (text : List Char) (i : Nat) : Prop :=
  ∃ a b, text[i]? = some a ∧ text[i + 1]? = some b ∧ PartsBefore a b text[i + 2]?

/-- Whether a position and the next one are kept in one word. -/
def Joined (keep : Bool) (text : List Char) (i : Nat) : Prop :=
  Kept keep text i ∧ Kept keep text (i + 1) ∧ ¬ Parts text i

/-- The characters of a block. -/
def Block.slice (text : List Char) (b : Block) : List Char := (text.drop b.start).take (b.stop - b.start)

/-- The kept characters of a text, in order, from a position on. -/
def keptFrom (keep : Bool) (text : List Char) (i n : Nat) : List Char :=
  (List.range' i n).filterMap fun j => if Kept keep text j then text[j]? else none

/-! ## The rest of a text -/

section Rest

variable {keep afterWord : Bool} {text cs : List Char} {c : Char} {i : Nat}

theorem getElem?_of_drop (h : text.drop i = cs) (k : Nat) : text[i + k]? = cs[k]? := by
  rw [← h, List.getElem?_drop]

theorem drop_succ_of_drop (h : text.drop i = c :: cs) : text.drop (i + 1) = cs := by
  rw [← List.drop_drop, h, List.drop_one, List.tail_cons]

theorem hasAlphanumeric_of_drop (h : text.drop i = c :: cs) : HasAlphanumeric text i ↔ isAlphanumeric c = true := by
  have first := getElem?_of_drop h 0
  rw [Nat.add_zero, List.getElem?_cons_zero] at first
  rw [HasAlphanumeric, first, Option.any_some]

theorem startsWord_of_drop (h : text.drop i = cs) : startsWord cs = true ↔ HasAlphanumeric text i := by
  have first := getElem?_of_drop h 0
  rw [Nat.add_zero] at first
  rw [HasAlphanumeric, first]
  cases cs with
  | nil => simp [startsWord]
  | cons d rest => simp [startsWord]

theorem isKept_iff (h : text.drop i = c :: cs)
    (before : afterWord = true ↔ 0 < i ∧ HasAlphanumeric text (i - 1)) :
    isKept keep afterWord c cs = true ↔ Kept keep text i := by
  have first := getElem?_of_drop h 0
  rw [Nat.add_zero, List.getElem?_cons_zero] at first
  unfold isKept Kept
  rw [hasAlphanumeric_of_drop h, first, ← before, ← startsWord_of_drop (drop_succ_of_drop h)]
  simp only [Bool.or_eq_true, Bool.and_eq_true, Option.any_some, and_assoc]

theorem before_succ (h : text.drop i = c :: cs) :
    isAlphanumeric c = true ↔ 0 < i + 1 ∧ HasAlphanumeric text (i + 1 - 1) := by
  rw [Nat.add_sub_cancel, hasAlphanumeric_of_drop h]
  simp

theorem startsNew_iff (a b : Char) (after : Option Char) :
    startsNew a b (after.filter isAlphanumeric) = true ↔ PartsBefore a b after := by
  have next : (after.filter isAlphanumeric).any isLower = true ↔
      ∃ c, after = some c ∧ isAlphanumeric c = true ∧ isLower c = true := by
    cases after with
    | none => simp
    | some c => by_cases alphanumeric : isAlphanumeric c = true <;> simp [alphanumeric]
  unfold startsNew PartsBefore
  rw [← next]
  grind

theorem goesOn_iff (h : text.drop i = c :: cs) :
    goesOn keep c cs = true ↔ Kept keep text (i + 1) ∧ ¬ Parts text i := by
  have rest := drop_succ_of_drop h
  have first := getElem?_of_drop h 0
  have second := getElem?_of_drop h 1
  have third := getElem?_of_drop h 2
  rw [Nat.add_zero, List.getElem?_cons_zero] at first
  cases cs with
  | nil =>
    have ended : ¬ Kept keep text (i + 1) := by
      simp at second
      simp [Kept, HasAlphanumeric, second]
    simp [goesOn, ended]
  | cons d more =>
    have parts : Parts text i ↔ startsNew c d (more.head?.filter isAlphanumeric) = true := by
      simp only [List.getElem?_cons_succ, List.getElem?_cons_zero] at second third
      rw [startsNew_iff, List.head?_eq_getElem?]
      unfold Parts
      rw [first, second, third]
      simp
    rw [goesOn, Bool.and_eq_true, isKept_iff rest (before_succ h), parts]
    simp

end Rest

/-! ## From right to left -/

theorem slice_cons {text cs : List Char} {c : Char} {i stop : Nat} (h : text.drop i = c :: cs) (hs : i < stop) :
    Block.slice text ⟨i, stop⟩ = c :: Block.slice text ⟨i + 1, stop⟩ := by
  unfold Block.slice
  rw [drop_succ_of_drop h, h, show stop - i = stop - (i + 1) + 1 by omega, List.take_succ_cons]

/-- The words of the rest of a text are the blocks of its positions. -/
theorem wordsAfter_blocks (keep : Bool) (text : List Char) :
    ∀ (cs : List Char) (i : Nat) (afterWord : Bool), text.drop i = cs →
      (afterWord = true ↔ 0 < i ∧ HasAlphanumeric text (i - 1)) →
      ∃ blocks, AreBlocksFrom (Kept keep text) (Joined keep text) i blocks ∧
        wordsAfter keep afterWord cs = blocks.map (Block.slice text)
  | [], i, _, h, _ => by
    have ended : ∀ j, i ≤ j → ¬ Kept keep text j := by
      intro j hj
      have short : text[j]? = none := by
        rw [List.getElem?_eq_none_iff]
        have := List.drop_eq_nil_iff.mp h
        omega
      simp [Kept, HasAlphanumeric, short]
    exact ⟨[], AreBlocksFrom.nil ended fun _ joined => joined.1, rfl⟩
  | c :: cs, i, afterWord, h, before => by
    obtain ⟨blocks, from', words⟩ :=
      wordsAfter_blocks keep text cs (i + 1) (isAlphanumeric c) (drop_succ_of_drop h) (before_succ h)
    have kept : isKept keep afterWord c cs = true ↔ Kept keep text i := isKept_iff h before
    by_cases hk : Kept keep text i
    · have goes : goesOn keep c cs = true ↔ Kept keep text (i + 1) ∧ ¬ Parts text i := goesOn_iff h
      rw [wordsAfter_cons_of_kept (kept.mpr hk), words]
      by_cases hj : goesOn keep c cs = true
      · obtain ⟨hk', hp⟩ := goes.mp hj
        obtain ⟨stop, rest, rfl, hs, grown⟩ := from'.extend hk hk' ⟨hk, hk', hp⟩
        refine ⟨_, grown, ?_⟩
        rw [if_pos hj, List.map_cons, List.map_cons, slice_cons h (by omega)]
        rfl
      · refine ⟨_, from'.single hk fun joined => hj (goes.mpr joined.2), ?_⟩
        have alone : Block.slice text ⟨i + 1, i + 1⟩ = [] := by simp [Block.slice]
        rw [if_neg hj, List.map_cons, slice_cons h (Nat.lt_succ_self i), alone]
    · have dropped : isKept keep afterWord c cs = false := by
        rw [Bool.eq_false_iff]
        exact fun h' => hk (kept.mp h')
      exact ⟨blocks, from'.skip hk fun joined => hk joined.1, by rw [wordsAfter_cons_of_dropped dropped, words]⟩

/-- No kept character is lost, moved or repeated. -/
theorem flatten_wordsAfter (keep : Bool) (text : List Char) :
    ∀ (cs : List Char) (i : Nat) (afterWord : Bool), text.drop i = cs →
      (afterWord = true ↔ 0 < i ∧ HasAlphanumeric text (i - 1)) →
      (wordsAfter keep afterWord cs).flatten = keptFrom keep text i cs.length
  | [], _, _, _, _ => rfl
  | c :: cs, i, afterWord, h, before => by
    have ih := flatten_wordsAfter keep text cs (i + 1) (isAlphanumeric c) (drop_succ_of_drop h) (before_succ h)
    have kept : isKept keep afterWord c cs = true ↔ Kept keep text i := isKept_iff h before
    have first := getElem?_of_drop h 0
    rw [Nat.add_zero, List.getElem?_cons_zero] at first
    have step : keptFrom keep text i (c :: cs).length =
        (if Kept keep text i then [c] else []) ++ keptFrom keep text (i + 1) cs.length := by
      unfold keptFrom
      rw [List.length_cons, List.range'_succ, List.filterMap_cons]
      by_cases hk : Kept keep text i
      · simp [hk, first]
      · simp [hk]
    rw [step, ← ih]
    by_cases hk : Kept keep text i
    · rw [wordsAfter_cons_of_kept (kept.mpr hk), if_pos hk]
      split
      · cases wordsAfter keep (isAlphanumeric c) cs <;> rfl
      · rfl
    · have dropped : isKept keep afterWord c cs = false := by
        rw [Bool.eq_false_iff]
        exact fun h' => hk (kept.mp h')
      rw [wordsAfter_cons_of_dropped dropped, if_neg hk, List.nil_append]

/-! ## The words of a text -/

theorem splitChars_blocks (keep : Bool) (text : List Char) :
    ∃ blocks, AreBlocks (Kept keep text) (Joined keep text) blocks ∧
      splitChars keep text = blocks.map (Block.slice text) := by
  obtain ⟨blocks, from', words⟩ := wordsAfter_blocks keep text text 0 false List.drop_zero (by simp)
  exact ⟨blocks, from'.zero, (splitChars_eq_wordsAfter keep text).trans words⟩

theorem flatten_splitChars (keep : Bool) (text : List Char) :
    (splitChars keep text).flatten = keptFrom keep text 0 text.length := by
  rw [splitChars_eq_wordsAfter]
  exact flatten_wordsAfter keep text text 0 false List.drop_zero (by simp)

section Ends

variable {keep : Bool} {text : List Char} {blocks : List Block} {b : Block}

theorem Kept.lt_length {i : Nat} (h : Kept keep text i) : i < text.length := by
  by_contra long
  have short : text[i]? = none := List.getElem?_eq_none_iff.mpr (Nat.le_of_not_lt long)
  simp [Kept, HasAlphanumeric, short] at h

theorem stop_le_length (h : AreBlocks (Kept keep text) (Joined keep text) blocks) (hb : b ∈ blocks) :
    b.stop ≤ text.length := by
  have filled := h.nonempty b hb
  have last : Kept keep text (b.stop - 1) := (h.covers _).mp ⟨b, hb, by omega, by omega⟩
  have := last.lt_length
  omega

theorem head?_slice (h : b.start < b.stop) : (b.slice text).head? = text[b.start]? := by
  unfold Block.slice
  rw [List.head?_take, if_neg (by omega), List.head?_drop]

theorem getLast?_slice (h : b.start < b.stop) (hl : b.stop ≤ text.length) :
    (b.slice text).getLast? = text[b.stop - 1]? := by
  have length : (b.slice text).length = b.stop - b.start := by
    unfold Block.slice
    rw [List.length_take, List.length_drop]
    omega
  rw [List.getLast?_eq_getElem?, length]
  unfold Block.slice
  rw [List.getElem?_take_of_lt (by omega), List.getElem?_drop]
  congr 1
  omega

/-- An apostrophe is kept for its neighbours' sake. -/
theorem Kept.neighbours {i : Nat} (h : Kept keep text i) (ha : text[i]?.any isApostrophe = true) :
    (0 < i ∧ HasAlphanumeric text (i - 1)) ∧ HasAlphanumeric text (i + 1) := by
  have separator : ¬ HasAlphanumeric text i := by
    unfold HasAlphanumeric
    cases hc : text[i]? with
    | none => simp
    | some c =>
      rw [hc, Option.any_some] at ha
      simp [isAlphanumeric_of_isApostrophe ha]
  rcases h with alphanumeric | ⟨-, -, around⟩
  · exact absurd alphanumeric separator
  · exact around

theorem not_parts_of_apostrophe {i : Nat}
    (h : text[i]?.any isApostrophe = true ∨ text[i + 1]?.any isApostrophe = true) : ¬ Parts text i := by
  rintro ⟨a, c, first, second, ha, hc, -⟩
  simp [first, second, ha, hc] at h

theorem not_isApostrophe_start (h : AreBlocks (Kept keep text) (Joined keep text) blocks) (hb : b ∈ blocks) :
    text[b.start]?.any isApostrophe = false := by
  rw [Bool.eq_false_iff]
  intro apostrophe
  have filled := h.nonempty b hb
  have here : b.Holds b.start := ⟨Nat.le_refl _, filled⟩
  have kept : Kept keep text b.start := (h.covers _).mp ⟨b, hb, here⟩
  obtain ⟨⟨positive, before⟩, -⟩ := kept.neighbours apostrophe
  have next : b.start - 1 + 1 = b.start := Nat.sub_add_cancel positive
  have joined : Joined keep text (b.start - 1) := by
    refine ⟨Or.inl before, ?_, not_parts_of_apostrophe (Or.inr ?_)⟩
    · rw [next]
      exact kept
    · rw [next]
      exact apostrophe
  obtain ⟨c, hc, early, there⟩ := (h.joins _).mpr joined
  rw [next] at there
  obtain rfl := h.eq_of_holds hc hb there here
  have := early.1
  omega

theorem not_isApostrophe_last (h : AreBlocks (Kept keep text) (Joined keep text) blocks) (hb : b ∈ blocks) :
    text[b.stop - 1]?.any isApostrophe = false := by
  rw [Bool.eq_false_iff]
  intro apostrophe
  have filled := h.nonempty b hb
  have here : b.Holds (b.stop - 1) := ⟨by omega, by omega⟩
  have kept : Kept keep text (b.stop - 1) := (h.covers _).mp ⟨b, hb, here⟩
  obtain ⟨-, behind⟩ := kept.neighbours apostrophe
  have joined : Joined keep text (b.stop - 1) :=
    ⟨kept, Or.inl behind, not_parts_of_apostrophe (Or.inl apostrophe)⟩
  obtain ⟨c, hc, there, late⟩ := (h.joins _).mpr joined
  obtain rfl := h.eq_of_holds hc hb there here
  have := late.2
  omega

end Ends

/-- The words are the slices of the one list of blocks that the kept positions and the word starts ask for. -/
theorem split_eq_slices (text : String) (keep : Bool) :
    ∃ blocks,
      (∀ others, AreBlocks (Kept keep text.toList) (Joined keep text.toList) others ↔ others = blocks) ∧
      split text keep = blocks.map (fun b => String.ofList (b.slice text.toList)) ∧
      (split text keep).flatMap String.toList = keptFrom keep text.toList 0 text.toList.length ∧
      ∀ word ∈ split text keep, word ≠ "" ∧ word.toList.head?.any isApostrophe = false ∧
        word.toList.getLast?.any isApostrophe = false := by
  obtain ⟨blocks, areBlocks, words⟩ := splitChars_blocks keep text.toList
  have slices : split text keep = blocks.map (fun b => String.ofList (b.slice text.toList)) := by
    unfold split
    rw [words, List.map_map]
    rfl
  refine ⟨blocks, ?_, slices, ?_, ?_⟩
  · intro others
    constructor
    · exact fun h => h.unique areBlocks
    · rintro rfl
      exact areBlocks
  · rw [← flatten_splitChars]
    unfold split
    rw [List.flatMap_map]
    simp only [String.toList_ofList, List.flatMap_id']
  · rw [slices]
    intro word hword
    obtain ⟨b, hb, rfl⟩ := List.mem_map.mp hword
    have filled := areBlocks.nonempty b hb
    have inside := stop_le_length areBlocks hb
    rw [String.toList_ofList, head?_slice filled, getLast?_slice filled inside]
    refine ⟨?_, not_isApostrophe_start areBlocks hb, not_isApostrophe_last areBlocks hb⟩
    intro empty
    have first : (b.slice text.toList).head? = text.toList[b.start]? := head?_slice filled
    have nothing : b.slice text.toList = [] := by
      rw [← String.toList_ofList (l := b.slice text.toList), empty]
      rfl
    rw [nothing, List.head?_nil, eq_comm, List.getElem?_eq_none_iff] at first
    omega

end SpellLint.Word
