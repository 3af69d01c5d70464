import Std.Data.String.ToNat
import SpellLint.Proofs.Source.LineShape

/-! # Positions

A place in a text is a line and a column in bytes. Reading a text character by character tells the place of every
offset; the table of lines finds the same offset at that place, whatever the bytes of the characters and the ends of
the lines are. The line and the column that are shown to a reader lead back to the offset too, so that no two spans of
a text are shown alike.
-/

set_option autoImplicit false

namespace SpellLint

/-- A span inside a text of so many characters. -/
def Span.Inside (length : Nat) (s : Span) : Prop := 0 ≤ s.start ∧ s.start ≤ s.stop ∧ s.stop ≤ length

instance (length : Nat) (s : Span) : Decidable (s.Inside length) := inferInstanceAs (Decidable (_ ∧ _))

/-- The bounds of a span inside a text are offsets. -/
theorem Span.Inside.exists_offsets {length : Nat} {s : Span} (h : s.Inside length) :
    ∃ p q : Nat, s = ⟨p, q⟩ ∧ p ≤ length ∧ q ≤ length := by
  obtain ⟨start, stop⟩ := s
  obtain ⟨nonneg, ordered, inside⟩ := h
  simp only at nonneg ordered inside
  obtain ⟨p, rfl⟩ := Int.eq_ofNat_of_zero_le nonneg
  obtain ⟨q, rfl⟩ := Int.eq_ofNat_of_zero_le (Int.le_trans nonneg ordered)
  exact ⟨p, q, rfl, by omega, by omega⟩

end SpellLint

namespace SpellLint.Source

open SpellLint.Text

/-! ## Places by reading -/

/-- A line, counted from 1, and a column, counted in bytes. -/
structure Place where
  line : Nat
  column : Nat
  deriving DecidableEq, Repr

namespace Place

/-- The place behind a character: a line end leads to the next line, any other character takes its bytes. -/
def next (a : Place) (c : Char) (following : Option Char) : Place :=
  if EndsLine c following then ⟨a.line + 1, 0⟩ else ⟨a.line, a.column + c.utf8Size⟩

/-- The place behind the first `n` characters of a text that stands at a place. -/
def after (a : Place) : (n : Nat) → List Char → Place
  | 0, _ => a
  | _ + 1, [] => a
  | n + 1, c :: cs => after (a.next c cs.head?) n cs

/-- The place behind whole lines and then some characters of a line. -/
def past (a : Place) (above : List (List Char)) (first : List Char) : Place :=
  if above = [] then ⟨a.line, a.column + byteLength first⟩ else ⟨a.line + above.length, byteLength first⟩

end Place

/-- The place of an offset in a text. -/
def placeAt (cs : List Char) (p : Nat) : Place := Place.after ⟨1, 0⟩ p cs

/-- Where a piece of syntax lies that reaches from one place to another. -/
def Extent.ofPlaces (a b : Place) : Extent := ⟨a.line, some a.column, some b.line, some b.column⟩

/-! ## Bytes and characters -/

theorem byteLength_cons (c : Char) (cs : List Char) : byteLength (c :: cs) = c.utf8Size + byteLength cs := by
  have shift (n : Nat) (ds : List Char) : ds.foldl (fun n c => n + c.utf8Size) n = n + byteLength ds := by
    induction ds generalizing n with
    | nil => rfl
    | cons d ds ih => rw [byteLength, List.foldl_cons, List.foldl_cons, ih, ih, Nat.zero_add, Nat.add_assoc]
  rw [byteLength, List.foldl_cons, shift, Nat.zero_add]

/-- As many characters fit into the bytes of the first characters of a text. -/
theorem charsWithin_byteLength (first rest : List Char) :
    charsWithin (byteLength first) (first ++ rest) = first.length := by
  induction first with
  | nil =>
    cases rest with
    | nil => rfl
    | cons c cs => exact if_neg (Nat.not_le_of_lt c.utf8Size_pos)
  | cons c cs ih =>
    have fits : c.utf8Size ≤ c.utf8Size + byteLength cs := Nat.le_add_right _ _
    rw [byteLength_cons, List.cons_append, charsWithin, if_pos fits, Nat.add_sub_cancel_left, ih]
    rfl

namespace Place

variable (a : Place)

theorem past_newLine (line : List Char) (above : List (List Char)) (first : List Char) :
    past ⟨a.line + 1, 0⟩ above first = a.past (line :: above) first := by
  cases above with
  | nil => simp [past]
  | cons line above => simp [past, Nat.add_assoc, Nat.add_comm 1]

theorem past_cons_nil (c : Char) (first : List Char) :
    past ⟨a.line, a.column + c.utf8Size⟩ [] first = a.past [] (c :: first) := by
  simp [past, byteLength_cons, Nat.add_assoc]

end Place

/-! ## Places in lines -/

/-- Lines that begin with whole lines and then with some characters of a line, or that are over by then. -/
inductive CutAt : (lines above : List (List Char)) → (first : List Char) → Prop where
  | within (above : List (List Char)) (first rest : List Char) (below : List (List Char)) :
      CutAt (above ++ (first ++ rest) :: below) above first
  | behind (lines : List (List Char)) : CutAt lines lines []

namespace CutAt

variable {lines above : List (List Char)} {first : List Char}

theorem start (lines : List (List Char)) : CutAt lines [] [] := by
  cases lines with
  | nil => exact .behind []
  | cons line below => exact .within [] [] line below

/-- A line in front of all others. -/
theorem consLine (h : CutAt lines above first) (line : List Char) : CutAt (line :: lines) (line :: above) first := by
  cases h with
  | within _ _ rest below => exact .within (line :: above) first rest below
  | behind => exact .behind (line :: lines)

/-- A character in front of the line that is cut. -/
theorem consFirst_nil (h : CutAt lines [] first) (c : Char) : CutAt (consFirst c lines) [] (c :: first) := by
  cases h with
  | within _ _ rest below => exact .within [] (c :: first) rest below
  | behind => exact .within [] [c] [] []

/-- A character in front of a line that is passed as a whole. -/
theorem consFirst_cons {line : List Char} (h : CutAt lines (line :: above) first) (c : Char) :
    CutAt (consFirst c lines) ((c :: line) :: above) first := by
  cases h with
  | within _ _ rest below => exact .within ((c :: line) :: above) first rest below
  | behind => exact .behind ((c :: line) :: above)

theorem take_getD (h : CutAt lines above first) : (lines.getD above.length []).take first.length = first := by
  cases h with
  | within _ _ rest below => simp
  | behind => simp

end CutAt

/-- Reading up to an offset passes whole lines and then the beginning of a line. -/
theorem after_eq_past (cs : List Char) : ∀ (a : Place) {p : Nat}, p ≤ cs.length →
    ∃ above first, CutAt (cutLines cs) above first ∧ p = above.flatten.length + first.length ∧
      a.after p cs = a.past above first := by
  induction cs with
  | nil =>
    intro a p inside
    obtain rfl : p = 0 := Nat.le_zero.mp inside
    exact ⟨[], [], .start _, rfl, rfl⟩
  | cons c cs ih =>
    intro a p inside
    cases p with
    | zero => exact ⟨[], [], .start _, rfl, rfl⟩
    | succ p =>
      have inside : p ≤ cs.length := Nat.le_of_succ_le_succ inside
      obtain ⟨above, first, cut, counted, reached⟩ := ih (a.next c cs.head?) inside
      rw [cutLines_cons, Place.after, reached]
      by_cases ends : EndsLine c cs.head?
      · rw [if_pos ends, Place.next, if_pos ends]
        refine ⟨[c] :: above, first, cut.consLine [c], ?_, a.past_newLine [c] above first⟩
        simp only [List.flatten_cons, List.length_append, List.length_singleton]
        omega
      · rw [if_neg ends, Place.next, if_neg ends]
        -- The character lengthens the first line, which is either the one that is cut or passed as a whole.
        cases above with
        | nil =>
          refine ⟨[], c :: first, cut.consFirst_nil c, ?_, a.past_cons_nil c first⟩
          simp only [List.length_cons, List.flatten_nil, List.length_nil] at counted ⊢
          omega
        | cons line above =>
          refine ⟨(c :: line) :: above, first, cut.consFirst_cons c, ?_, rfl⟩
          simp only [List.flatten_cons, List.length_append, List.length_cons] at counted ⊢
          omega

theorem placeAt_eq {cs : List Char} {p : Nat} (h : p ≤ cs.length) :
    ∃ above first, CutAt (cutLines cs) above first ∧ p = above.flatten.length + first.length ∧
      placeAt cs p = ⟨above.length + 1, byteLength first⟩ := by
  obtain ⟨above, first, cut, counted, reached⟩ := after_eq_past cs ⟨1, 0⟩ h
  refine ⟨above, first, cut, counted, ?_⟩
  rw [placeAt, reached]
  cases above with
  | nil => simp [Place.past]
  | cons line above => simp [Place.past, Nat.add_comm 1]

namespace LineTable

variable (cs : List Char)

/-- The table finds the offset of a place. -/
theorem offset_of_cutAt {above : List (List Char)} {first : List Char} (h : CutAt (cutLines cs) above first) :
    (ofChars cs).offset (above.length + 1) (some (byteLength first)) = above.flatten.length + first.length := by
  have numbered : ¬ ((above.length : Int) + 1 ≤ 0) := by omega
  have index : ((above.length : Int) + 1 - 1).toNat = above.length := by omega
  have lines : (ofChars cs).lines[above.length]? = (cutLines cs)[above.length]? := by simp [ofChars]
  simp only [offset]
  rw [if_neg numbered, index, lines]
  generalize cut : cutLines cs = ls at h
  cases h with
  | within _ _ rest below =>
    have start : (ofChars cs).starts.getD above.length 0 = above.flatten.length := by
      rw [getD_starts cs (by simp [cut]), cut, startOf_append]
    have here : (above ++ (first ++ rest) :: below)[above.length]? = some (first ++ rest) := by simp
    rw [here, start]
    simp only
    rw [if_neg (by omega), Int.toNat_natCast, charsWithin_byteLength]
  | behind =>
    have nothing : above[above.length]? = none := List.getElem?_eq_none (Nat.le_refl _)
    rw [nothing, ← cut, flatten_cutLines]
    rfl

/-- The line of an offset and the characters before it on this line. -/
theorem lineColumn_eq {p : Nat} (h : p ≤ cs.length) :
    ∃ above first, CutAt (cutLines cs) above first ∧ p = above.flatten.length + first.length ∧
      (ofChars cs).lineColumn p = (above.length, (first.length : Int)) := by
  have whole := flatten_cutLines cs
  unfold lineColumn
  cases found : (ofChars cs).lineOf p with
  | none =>
    have empty := (lineOf_eq_none_iff cs).mp found
    rw [empty] at whole
    subst whole
    exact ⟨[], [], .start _, Nat.le_zero.mp h, rfl⟩
  | some i =>
    obtain ⟨inside, small, large⟩ := (lineOf_eq_some_iff cs).mp found
    have next := startOf_succ (List.getElem?_eq_getElem inside)
    -- Behind the last line nothing starts, but the text ends there.
    have fits : p - startOf (cutLines cs) i ≤ (cutLines cs)[i].length := by
      rcases Nat.lt_or_ge (i + 1) (cutLines cs).length with more | last
      · have behind := large (i + 1) (Nat.lt_succ_self i) more
        omega
      · have all := startOf_of_length_le last
        rw [whole] at all
        omega
    have above : ((cutLines cs).take i).length = i := by
      rw [List.length_take]
      omega
    have first : ((cutLines cs)[i].take (p - startOf (cutLines cs) i)).length = p - startOf (cutLines cs) i := by
      rw [List.length_take, Nat.min_eq_left fits]
    have cut := CutAt.within ((cutLines cs).take i) ((cutLines cs)[i].take (p - startOf (cutLines cs) i))
      ((cutLines cs)[i].drop (p - startOf (cutLines cs) i)) ((cutLines cs).drop (i + 1))
    rw [List.take_append_drop, ← List.drop_eq_getElem_cons inside, List.take_append_drop] at cut
    refine ⟨_, _, cut, ?_, ?_⟩
    · rw [first]
      exact (Nat.add_sub_of_le small).symm
    · simp only
      rw [getD_starts cs inside, above, first]
      congr 1
      omega

/-- The line and the column of an offset lead back to it. -/
theorem offset_lineColumn {p : Nat} (h : p ≤ cs.length) :
    ∃ i c : Nat, (ofChars cs).lineColumn p = (i, (c : Int)) ∧
      (ofChars cs).offset (i + 1) (some (byteLength (((ofChars cs).lines.getD i []).take c))) = p := by
  obtain ⟨above, first, cut, rfl, column⟩ := lineColumn_eq cs h
  have lines : (ofChars cs).lines.getD above.length [] = (cutLines cs).getD above.length [] := by simp [ofChars]
  refine ⟨above.length, first.length, column, ?_⟩
  rw [lines, cut.take_getD]
  exact offset_of_cutAt cs cut

/-- The table finds the offset whose place was found by reading. -/
theorem offset_placeAt {p : Nat} (h : p ≤ cs.length) :
    (ofChars cs).offset (placeAt cs p).line (some (placeAt cs p).column) = p := by
  obtain ⟨above, first, cut, rfl, place⟩ := placeAt_eq h
  rw [place]
  exact offset_of_cutAt cs cut

theorem lineColumn_injective {p q : Nat} (hp : p ≤ cs.length) (hq : q ≤ cs.length)
    (h : (ofChars cs).lineColumn p = (ofChars cs).lineColumn q) : p = q := by
  obtain ⟨i, c, found, back⟩ := offset_lineColumn cs hp
  obtain ⟨j, d, found', back'⟩ := offset_lineColumn cs hq
  rw [found, found'] at h
  obtain ⟨rfl, columns⟩ := Prod.mk.inj h
  obtain rfl := Int.ofNat_inj.mp columns
  exact back.symm.trans back'

/-- A piece of syntax that reaches from the place of one offset to that of another has these as its span. -/
theorem spanOf_places {p q : Nat} (ordered : p ≤ q) (inside : q ≤ cs.length) :
    (ofChars cs).spanOf (.ofPlaces (placeAt cs p) (placeAt cs q)) = ⟨p, q⟩ := by
  have start := offset_placeAt cs (Nat.le_trans ordered inside)
  have stop := offset_placeAt cs inside
  have numbered : ((placeAt cs q).line : Int) ≠ 0 := by
    obtain ⟨above, first, _, _, place⟩ := placeAt_eq inside
    rw [place]
    exact Int.ofNat_ne_zero.mpr (Nat.succ_ne_zero _)
  unfold spanOf Extent.ofPlaces
  simp only [start, if_neg numbered, stop]
  rw [Int.max_eq_right (Int.ofNat_le.mpr ordered)]

end LineTable

/-! ## Places shown to a reader -/

theorem eq_of_append_mark {m : Char} : ∀ {x₁ x₂ z₁ z₂ : List Char}, m ∉ x₁ → m ∉ x₂ →
    x₁ ++ m :: z₁ = x₂ ++ m :: z₂ → x₁ = x₂ ∧ z₁ = z₂
  | [], [], _, _, _, _, h => ⟨rfl, (List.cons.inj h).2⟩
  | [], _ :: _, _, _, _, h₂, h => absurd ((List.cons.inj h).1 ▸ List.mem_cons_self) h₂
  | _ :: _, [], _, _, h₁, _, h => absurd ((List.cons.inj h).1 ▸ List.mem_cons_self) h₁
  | c :: x₁, d :: x₂, z₁, z₂, h₁, h₂, h => by
    obtain ⟨rfl, tails⟩ := List.cons.inj h
    obtain ⟨rfl, same⟩ := eq_of_append_mark (mt (List.mem_cons_of_mem c) h₁) (mt (List.mem_cons_of_mem c) h₂) tails
    exact ⟨rfl, same⟩

theorem colon_notMem_repr (n : Nat) : ':' ∉ n.repr.toList := by
  intro h
  rw [Nat.toList_repr] at h
  have digit := Nat.isDigit_of_mem_toDigits (by decide) (by decide) h
  exact absurd digit (by decide)

/-- The four numbers that are shown for a span. -/
def shownNumbers (l₁ c₁ l₂ c₂ : Nat) : List Char :=
  l₁.repr.toList ++ ':' :: (c₁.repr.toList ++ ':' :: ' ' :: (l₂.repr.toList ++ ':' :: c₂.repr.toList))

theorem shownNumbers_injective {l₁ c₁ l₂ c₂ l₁' c₁' l₂' c₂' : Nat}
    (h : shownNumbers l₁ c₁ l₂ c₂ = shownNumbers l₁' c₁' l₂' c₂') :
    (l₁ = l₁' ∧ c₁ = c₁') ∧ l₂ = l₂' ∧ c₂ = c₂' := by
  have number {m n : Nat} (same : m.repr.toList = n.repr.toList) : m = n :=
    Nat.repr_inj.mp (String.toList_inj.mp same)
  obtain ⟨line₁, h⟩ := eq_of_append_mark (colon_notMem_repr _) (colon_notMem_repr _) h
  obtain ⟨column₁, h⟩ := eq_of_append_mark (colon_notMem_repr _) (colon_notMem_repr _) h
  obtain ⟨line₂, column₂⟩ := eq_of_append_mark (colon_notMem_repr _) (colon_notMem_repr _) (List.cons.inj h).2
  exact ⟨⟨number line₁, number column₁⟩, number line₂, number column₂⟩

theorem toList_location {t : LineTable} {s : Span} {l₁ c₁ l₂ c₂ : Nat} (path : String)
    (h₁ : t.lineColumn s.start = (l₁, (c₁ : Int))) (h₂ : t.lineColumn s.stop = (l₂, (c₂ : Int))) :
    (t.location path s).toList = path.toList ++ ':' :: shownNumbers (l₁ + 1) (c₁ + 1) (l₂ + 1) (c₂ + 1) := by
  have text : t.location path s = path ++ ":" ++ (l₁ + 1).repr ++ ":" ++ (c₁ + 1).repr ++ ": " ++
      (l₂ + 1).repr ++ ":" ++ (c₂ + 1).repr := by
    unfold LineTable.location
    rw [h₁, h₂]
    rfl
  rw [text]
  simp [shownNumbers]

/-- Two spans of a text that are shown alike are the same. -/
theorem location_injective (path : String) (cs : List Char) {r s : Span} (hr : r.Inside cs.length)
    (hs : s.Inside cs.length)
    (h : (LineTable.ofChars cs).location path r = (LineTable.ofChars cs).location path s) : r = s := by
  obtain ⟨p, q, rfl, hp, hq⟩ := hr.exists_offsets
  obtain ⟨p', q', rfl, hp', hq'⟩ := hs.exists_offsets
  obtain ⟨l₁, c₁, first, _⟩ := LineTable.offset_lineColumn cs hp
  obtain ⟨l₂, c₂, last, _⟩ := LineTable.offset_lineColumn cs hq
  obtain ⟨l₁', c₁', first', _⟩ := LineTable.offset_lineColumn cs hp'
  obtain ⟨l₂', c₂', last', _⟩ := LineTable.offset_lineColumn cs hq'
  have texts := congrArg String.toList h
  rw [toList_location path first last, toList_location path first' last'] at texts
  have numbers := shownNumbers_injective (List.cons.inj (List.append_cancel_left texts)).2
  obtain ⟨⟨line₁, column₁⟩, line₂, column₂⟩ := numbers
  have starts : p = p' := by
    apply LineTable.lineColumn_injective cs hp hp'
    rw [first, first', Nat.succ.inj line₁, Nat.succ.inj column₁]
  have stops : q = q' := by
    apply LineTable.lineColumn_injective cs hq hq'
    rw [last, last', Nat.succ.inj line₂, Nat.succ.inj column₂]
  rw [starts, stops]

/-! ## The three ways to tell a position agree -/

/-- Offsets, lines with columns for a reader, and lines with columns in bytes tell the same positions of a text. -/
theorem positions_inverse (path text : String) :
    (∀ p ≤ text.length, ∃ i c : Nat, (LineTable.ofString text).lineColumn p = (i, (c : Int)) ∧
      (LineTable.ofString text).offset (i + 1)
        (some (byteLength (((LineTable.ofString text).lines.getD i []).take c))) = p) ∧
    (∀ p q, p ≤ q → q ≤ text.length →
      (LineTable.ofString text).spanOf (.ofPlaces (placeAt text.toList p) (placeAt text.toList q)) = ⟨p, q⟩) ∧
    (∀ r s : Span, r.Inside text.length → s.Inside text.length →
      (LineTable.ofString text).location path r = (LineTable.ofString text).location path s → r = s) := by
  rw [← String.length_toList]
  refine ⟨?_, ?_, ?_⟩
  · intro p inside
    exact LineTable.offset_lineColumn text.toList inside
  · intro p q ordered inside
    exact LineTable.spanOf_places text.toList ordered inside
  · intro r s hr hs alike
    exact location_injective path text.toList hr hs alike

/-- Characters of one to four bytes, and line ends of all three kinds. -/
def mixedText : String := "é\r\nß𝒳 €\rx\n"

theorem positions_inverse_mixed :
    4 ≤ 8 ∧ 8 ≤ mixedText.length ∧ placeAt mixedText.toList 4 = ⟨2, 2⟩ ∧ placeAt mixedText.toList 8 = ⟨3, 0⟩ ∧
      (LineTable.ofString mixedText).spanOf (.ofPlaces ⟨2, 2⟩ ⟨3, 0⟩) = ⟨4, 8⟩ := by
  have ordered : 4 ≤ 8 := by decide
  have inside : 8 ≤ mixedText.length := by decide
  have start : placeAt mixedText.toList 4 = ⟨2, 2⟩ := by decide
  have stop : placeAt mixedText.toList 8 = ⟨3, 0⟩ := by decide
  have span := (positions_inverse "mixed" mixedText).2.1 4 8 ordered inside
  rw [start, stop] at span
  exact ⟨ordered, inside, start, stop, span⟩

end SpellLint.Source
