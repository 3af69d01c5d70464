import SpellLint.Proofs.Source.Nodes
import SpellLint.Proofs.Source.Position

/-! # Positions at large

A line and a column need not denote a place of a text: there may be no such line, the line may be shorter, and the
column may be in the middle of a character or count back beyond the start of the line. The table finds an offset all
the same. It is never in front of the line nor behind its end (`LineTable.offset_between`), so later positions have
later offsets, and no span of syntax reaches out of the text (`LineTable.inside_spanOf`), whatever the tree says.
-/

set_option autoImplicit false

namespace SpellLint.Source

open SpellLint.Text

/-! ## Characters that fit -/

theorem charsWithin_le_length (bytes : Nat) (cs : List Char) : charsWithin bytes cs ≤ cs.length := by
  induction cs generalizing bytes with
  | nil => exact Nat.le_refl 0
  | cons c cs ih =>
    rw [charsWithin]
    split
    · exact Nat.succ_le_succ (ih _)
    · exact Nat.zero_le _

theorem charsWithin_mono (cs : List Char) {bytes more : Nat} (h : bytes ≤ more) :
    charsWithin bytes cs ≤ charsWithin more cs := by
  induction cs generalizing bytes more with
  | nil => exact Nat.le_refl 0
  | cons c cs ih =>
    rw [charsWithin, charsWithin]
    split
    · next fits =>
      rw [if_pos (Nat.le_trans fits h)]
      exact Nat.succ_le_succ (ih (Nat.sub_le_sub_right h _))
    · exact Nat.zero_le _

/-- A character does not count unless all of its bytes fit. -/
theorem charsWithin_cut (first : List Char) {c : Char} (rest : List Char) {k : Nat} (h : k < c.utf8Size) :
    charsWithin (byteLength first + k) (first ++ c :: rest) = first.length := by
  induction first with
  | nil =>
    have cut : ¬ c.utf8Size ≤ byteLength [] + k := by
      rw [byteLength, List.foldl_nil, Nat.zero_add]
      exact Nat.not_le_of_lt h
    exact if_neg cut
  | cons d first ih =>
    have fits : d.utf8Size ≤ d.utf8Size + byteLength first + k := by omega
    have left : d.utf8Size + byteLength first + k - d.utf8Size = byteLength first + k := by omega
    rw [byteLength_cons, List.cons_append, charsWithin, if_pos fits, left, ih, List.length_cons]

/-! ## Offsets of any line and column -/

theorem startOf_le_length (lines : List (List Char)) (i : Nat) : startOf lines i ≤ lines.flatten.length := by
  have later : startOf lines i ≤ startOf lines (max i lines.length) := startOf_mono (Nat.le_max_left i lines.length)
  rw [startOf_of_length_le (Nat.le_max_right i lines.length)] at later
  exact later

namespace LineTable

variable (cs : List Char)

theorem offset_of_nonpos (t : LineTable) {line : Int} (h : line ≤ 0) (column : Option Int) :
    t.offset line column = 0 :=
  if_pos h

theorem offset_of_behind {i : Nat} (h : (cutLines cs).length ≤ i) (column : Option Int) :
    (ofChars cs).offset (i + 1) column = cs.length := by
  have numbered : ¬ ((i : Int) + 1 ≤ 0) := by omega
  have index : ((i : Int) + 1 - 1).toNat = i := by omega
  have nothing : (ofChars cs).lines[i]? = none := by simp [ofChars, h]
  simp only [offset]
  rw [if_neg numbered, index, nothing]
  rfl

/-- The bytes of a line in front of a column, which counts from the end of the line if it is missing or negative. -/
def bytesBefore (line : List Char) : (column : Option Int) → Nat
  | some k => if k < 0 then (byteLength line + k).toNat else k.toNat
  | none => byteLength line

theorem bytesBefore_of_nonneg (line : List Char) {k : Int} (h : 0 ≤ k) : bytesBefore line (some k) = k.toNat :=
  if_neg (Int.not_lt.mpr h)

theorem offset_of_line {i : Nat} (h : i < (cutLines cs).length) (column : Option Int) :
    (ofChars cs).offset (i + 1) column =
      startOf (cutLines cs) i + charsWithin (bytesBefore (cutLines cs)[i] column) (cutLines cs)[i] := by
  have numbered : ¬ ((i : Int) + 1 ≤ 0) := by omega
  have index : ((i : Int) + 1 - 1).toNat = i := by omega
  have here : (ofChars cs).lines[i]? = some (cutLines cs)[i] := by simp [ofChars, h]
  simp only [offset]
  rw [if_neg numbered, index, here, getD_starts cs h]
  cases column <;> rfl

/-- A line is in front of the text, in it, or behind it. -/
theorem line_cases (line : Int) : line ≤ 0 ∨ ∃ i : Nat, line = i + 1 := by
  by_cases front : line ≤ 0
  · exact .inl front
  · exact .inr ⟨(line - 1).toNat, by omega⟩

/-- An offset is not in front of its line and not behind the end of it. -/
theorem offset_between (line : Int) (column : Option Int) :
    startOf (cutLines cs) (line - 1).toNat ≤ (ofChars cs).offset line column ∧
      (ofChars cs).offset line column ≤ startOf (cutLines cs) line.toNat := by
  rcases line_cases line with front | ⟨i, rfl⟩
  · have here : (line - 1).toNat = 0 := by omega
    rw [offset_of_nonpos _ front, here]
    exact ⟨Nat.le_refl 0, Nat.zero_le _⟩
  · have here : ((i : Int) + 1 - 1).toNat = i := by omega
    have next : ((i : Int) + 1).toNat = i + 1 := by omega
    rw [here, next]
    rcases Nat.lt_or_ge i (cutLines cs).length with inside | behind
    · have fits := charsWithin_le_length (bytesBefore (cutLines cs)[i] column) (cutLines cs)[i]
      rw [offset_of_line cs inside, startOf_succ (List.getElem?_eq_getElem inside)]
      exact ⟨Nat.le_add_right _ _, Nat.add_le_add_left fits _⟩
    · rw [offset_of_behind cs behind, startOf_of_length_le behind,
        startOf_of_length_le (Nat.le_succ_of_le behind), flatten_cutLines]
      exact ⟨Nat.le_refl _, Nat.le_refl _⟩

theorem offset_le_length (line : Int) (column : Option Int) : (ofChars cs).offset line column ≤ cs.length := by
  have inText := startOf_le_length (cutLines cs) line.toNat
  rw [flatten_cutLines] at inText
  exact Nat.le_trans (offset_between cs line column).2 inText

/-- Later lines have later offsets, whatever the columns are. -/
theorem offset_mono_line {line line' : Int} (h : line < line') (column column' : Option Int) :
    (ofChars cs).offset line column ≤ (ofChars cs).offset line' column' := by
  have lines : line.toNat ≤ (line' - 1).toNat := by omega
  calc (ofChars cs).offset line column
    _ ≤ startOf (cutLines cs) line.toNat := (offset_between cs line column).2
    _ ≤ startOf (cutLines cs) (line' - 1).toNat := startOf_mono lines
    _ ≤ (ofChars cs).offset line' column' := (offset_between cs line' column').1

theorem offset_mono_column (line : Int) {column column' : Int} (nonneg : 0 ≤ column) (h : column ≤ column') :
    (ofChars cs).offset line (some column) ≤ (ofChars cs).offset line (some column') := by
  rcases line_cases line with front | ⟨i, rfl⟩
  · rw [offset_of_nonpos _ front]
    exact Nat.zero_le _
  · rcases Nat.lt_or_ge i (cutLines cs).length with inside | behind
    · have more : bytesBefore (cutLines cs)[i] (some column) ≤ bytesBefore (cutLines cs)[i] (some column') := by
        rw [bytesBefore_of_nonneg _ nonneg, bytesBefore_of_nonneg _ (Int.le_trans nonneg h)]
        exact Int.toNat_le_toNat h
      rw [offset_of_line cs inside, offset_of_line cs inside]
      exact Nat.add_le_add_left (charsWithin_mono _ more) _
    · have same := (offset_of_behind cs behind (some column)).trans (offset_of_behind cs behind (some column')).symm
      exact Nat.le_of_eq same

/-! ## Columns inside a character -/

theorem getElem?_startOf_add {lines : List (List Char)} {i : Nat} {first rest : List Char} {c : Char}
    (h : lines[i]? = some (first ++ c :: rest)) : lines.flatten[startOf lines i + first.length]? = some c := by
  obtain ⟨inside, line⟩ := List.getElem?_eq_some_iff.mp h
  have cut : lines.flatten = (lines.take i).flatten ++ (first ++ c :: rest ++ (lines.drop (i + 1)).flatten) := by
    rw [← line, ← List.flatten_cons, ← List.drop_eq_getElem_cons inside, ← List.flatten_append, List.take_append_drop]
  rw [cut, startOf, List.getElem?_append_right (Nat.le_add_right _ _), Nat.add_sub_cancel_left, List.append_assoc,
    List.getElem?_append_right (Nat.le_refl _), Nat.sub_self]
  rfl

theorem lineColumn_of_line {i : Nat} {first rest : List Char} {c : Char}
    (h : (cutLines cs)[i]? = some (first ++ c :: rest)) :
    (ofChars cs).lineColumn (startOf (cutLines cs) i + first.length : Nat) = (i, (first.length : Int)) := by
  obtain ⟨inside, line⟩ := List.getElem?_eq_some_iff.mp h
  have next := startOf_succ h
  rw [List.length_append, List.length_cons] at next
  have found : (ofChars cs).lineOf (startOf (cutLines cs) i + first.length : Nat) = some i := by
    refine (lineOf_eq_some_iff cs).mpr ⟨inside, Nat.le_add_right _ _, fun j behind _ => ?_⟩
    have later : startOf (cutLines cs) (i + 1) ≤ startOf (cutLines cs) j := startOf_mono behind
    omega
  unfold lineColumn
  rw [found]
  simp only
  rw [getD_starts cs inside]
  congr 1
  omega

/-- A column inside a character is rounded down to the place of the character. -/
theorem offset_inside_character {i : Nat} {first rest : List Char} {c : Char}
    (h : (cutLines cs)[i]? = some (first ++ c :: rest)) {k : Nat} (inside : k < c.utf8Size) :
    (ofChars cs).offset (i + 1) (some (byteLength first + k : Nat)) = startOf (cutLines cs) i + first.length := by
  obtain ⟨numbered, line⟩ := List.getElem?_eq_some_iff.mp h
  have bytes : bytesBefore (cutLines cs)[i] (some (byteLength first + k : Nat)) = byteLength first + k := by
    rw [bytesBefore_of_nonneg _ (Int.natCast_nonneg _), Int.toNat_natCast]
  rw [offset_of_line cs numbered, bytes, line, charsWithin_cut first rest inside]

/-! ## Spans of any syntax -/

theorem inside_spanOf (e : Extent) : ((ofChars cs).spanOf e).Inside cs.length := by
  have within (line : Int) (column : Option Int) : ((ofChars cs).offset line column : Int) ≤ cs.length :=
    Int.ofNat_le.mpr (offset_le_length cs line column)
  have start := within e.line e.column
  unfold spanOf
  refine ⟨Int.natCast_nonneg _, Int.le_max_left _ _, Int.max_le.mpr ⟨start, ?_⟩⟩
  cases e.endColumn with
  | none => exact start
  | some column => exact within _ _

end LineTable

/-! ## Spans of nodes -/

theorem exists_spanAt_of_mem_docMarks {lines : LineTable} {body : List Tree} {k : Mark}
    (h : k ∈ docMarks lines body) : ∃ e, k.span = spanAt lines e := by
  unfold docMarks at h
  split at h
  · obtain rfl := List.mem_singleton.mp h
    exact ⟨_, rfl⟩
  · cases h

theorem exists_spanAt_of_mem_marks {lines : LineTable} {o : Occurrence} {k : Mark} (h : k ∈ o.marks lines) :
    ∃ e, k.span = spanAt lines e := by
  unfold Occurrence.marks at h
  split at h
  case h_1 =>
    rcases List.mem_cons.mp h with rfl | doc
    · exact ⟨_, rfl⟩
    · exact exists_spanAt_of_mem_docMarks doc
  case h_2 | h_4 =>
    obtain ⟨-, alone⟩ := List.mem_ite_nil_left.mp h
    obtain rfl := List.mem_singleton.mp alone
    exact ⟨_, rfl⟩
  all_goals
    obtain rfl := List.mem_singleton.mp h
    exact ⟨_, rfl⟩

theorem inside_origin (length : Nat) : Span.origin.Inside length :=
  ⟨Int.le_refl 0, Int.le_refl 0, Int.natCast_nonneg length⟩

theorem inside_spanAt (cs : List Char) (e : Option Extent) : (spanAt (.ofChars cs) e).Inside cs.length := by
  cases e with
  | none => exact inside_origin cs.length
  | some e => exact LineTable.inside_spanOf cs e

theorem inside_node {cs : List Char} {k : Mark} (exported : Bool) (h : ∃ e, k.span = spanAt (.ofChars cs) e) :
    (k.node exported).span.Inside cs.length := by
  obtain ⟨e, span⟩ := h
  rw [Mark.node, span]
  exact inside_spanAt cs e

theorem inside_of_mem_moduleNodes (cs : List Char) {name : String} {m : Module} {n : Node}
    (h : n ∈ moduleNodes (.ofChars cs) name m) : n.span.Inside cs.length := by
  rw [moduleNodes_eq] at h
  rcases List.mem_append.mp h with own | placed
  · obtain ⟨k, listed, rfl⟩ := List.mem_map.mp own
    rcases List.mem_cons.mp listed with rfl | doc
    · exact inside_origin cs.length
    · exact inside_node _ (exists_spanAt_of_mem_docMarks doc)
  · obtain ⟨o, -, given⟩ := List.mem_flatMap.mp placed
    obtain ⟨k, listed, rfl⟩ := List.mem_map.mp given
    exact inside_node _ (exists_spanAt_of_mem_marks listed)

/-- Whatever line and column are asked for, the offset is in the text; later positions have later offsets, and a column
inside a character has the offset of the character. So every piece of syntax that has a line has a span in the text,
and the nodes of a module do not reach out of it. -/
theorem positions_bounded (text : String) :
    (∀ line column, (LineTable.ofString text).offset line column ≤ text.length) ∧
    (∀ line line' column column' : Int, 0 ≤ column → 0 ≤ column' → line < line' ∨ line = line' ∧ column ≤ column' →
      (LineTable.ofString text).offset line (some column) ≤ (LineTable.ofString text).offset line' (some column')) ∧
    (∀ (i : Nat) first c rest, (LineTable.ofString text).lines[i]? = some (first ++ c :: rest) →
      ∃ p : Nat, text.toList[p]? = some c ∧ (LineTable.ofString text).lineColumn p = (i, (first.length : Int)) ∧
        ∀ k < c.utf8Size, (LineTable.ofString text).offset (i + 1) (some (byteLength first + k : Nat)) = p) ∧
    (∀ line column endLine endColumn : Option Int,
      ((line.map fun l => (LineTable.ofString text).spanOf ⟨l, column, endLine, endColumn⟩) = none ↔ line = none) ∧
        ∀ s, (line.map fun l => (LineTable.ofString text).spanOf ⟨l, column, endLine, endColumn⟩) = some s →
          s.Inside text.length) ∧
    ∀ name m, ∀ n ∈ moduleNodes (.ofString text) name m, n.span.Inside text.length := by
  have length := String.length_toList (s := text)
  refine ⟨?_, ?_, ?_, ?_, ?_⟩
  · intro line column
    rw [← length]
    exact LineTable.offset_le_length text.toList line column
  · rintro line line' column column' nonneg - (lines | ⟨rfl, columns⟩)
    · exact LineTable.offset_mono_line text.toList lines _ _
    · exact LineTable.offset_mono_column text.toList line nonneg columns
  · intro i first c rest here
    have line : (cutLines text.toList)[i]? = some (first ++ c :: rest) := by
      simpa [LineTable.ofString, LineTable.ofChars] using here
    have character := LineTable.getElem?_startOf_add line
    rw [flatten_cutLines] at character
    exact ⟨_, character, LineTable.lineColumn_of_line text.toList line, fun k inside =>
      LineTable.offset_inside_character text.toList line inside⟩
  · intro line column endLine endColumn
    refine ⟨Option.map_eq_none_iff, ?_⟩
    intro s found
    obtain ⟨l, -, rfl⟩ := Option.map_eq_some_iff.mp found
    rw [← length]
    exact LineTable.inside_spanOf text.toList _
  · intro name m n given
    rw [← length]
    exact inside_of_mem_moduleNodes text.toList given

end SpellLint.Source
