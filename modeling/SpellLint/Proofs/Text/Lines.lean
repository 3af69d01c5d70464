import Mathlib.Data.List.Basic
import Mathlib.Data.String.Basic
import SpellLint.Proofs.Text.Lowering
import SpellLint.Text.Utf8

/-! # Lines and lists in a text

A text is cut into lines at the line boundaries of every script, and into the items of a list at a separator; items are
trimmed, and blank ones are dropped. Joining undoes neither cut by itself: lines come back if they have no line boundary
and are not empty (`lines_intercalate`), items if they do not have the separator, are trimmed and are not blank
(`listed_intercalate`). To unify the line ends of a text first changes nothing (`lines_unifyLineEnds`).
-/

set_option autoImplicit false

namespace SpellLint.Text

/-- A character of the first piece is the new one, or it was in a piece before. -/
theorem mem_consFirst {c d : Char} {piece : List Char} {pieces : List (List Char)} (member : piece ∈ consFirst c pieces)
    (inside : d ∈ piece) : d = c ∨ ∃ old ∈ pieces, d ∈ old := by
  cases pieces with
  | nil =>
    rw [consFirst, List.mem_singleton] at member
    rw [member, List.mem_singleton] at inside
    exact .inl inside
  | cons first pieces =>
    rw [consFirst, List.mem_cons] at member
    rcases member with rfl | later
    · rcases List.mem_cons.mp inside with new | old
      · exact .inl new
      · exact .inr ⟨first, List.mem_cons_self, old⟩
    · exact .inr ⟨piece, List.mem_cons_of_mem first later, inside⟩

theorem consFirst_eq_modifyHead (c : Char) {pieces : List (List Char)} (filled : pieces ≠ []) :
    consFirst c pieces = pieces.modifyHead (c :: ·) := by
  cases pieces with
  | nil => exact absurd rfl filled
  | cons piece pieces => rfl

/-! ## Lines -/

/-- The pieces of a text between its line ends. -/
def linePieces (cs : List Char) : List (List Char) := (cs.foldr consLine (none, [[]])).2

theorem linePieces_cons (c : Char) (cs : List Char) :
    linePieces (c :: cs) =
      if c = '\r' ∧ cs.head? = some '\n' then linePieces cs
      else if isLineBoundary c then [] :: linePieces cs else consFirst c (linePieces cs) := by
  cases cs <;> rfl

/-- There is no line boundary in a line. -/
theorem not_isLineBoundary_of_mem_linePieces {cs piece : List Char} (member : piece ∈ linePieces cs) {d : Char}
    (inside : d ∈ piece) : isLineBoundary d = false := by
  induction cs generalizing piece with
  | nil =>
    rw [List.mem_singleton.mp member] at inside
    cases inside
  | cons c cs ih =>
    rw [linePieces_cons] at member
    split at member
    · exact ih member inside
    · split at member
      · rcases List.mem_cons.mp member with rfl | later
        · cases inside
        · exact ih later inside
      · next inner =>
        rcases mem_consFirst member inside with rfl | ⟨old, below, inside⟩
        · exact Bool.not_eq_true _ ▸ inner
        · exact ih below inside

theorem not_isLineBoundary_of_mem_lines {cs line : List Char} (member : line ∈ lines cs) {d : Char}
    (inside : d ∈ line) : isLineBoundary d = false := by
  have piece : line ∈ linePieces cs := by
    change line ∈ (if (linePieces cs).getLast? = some [] then (linePieces cs).dropLast else linePieces cs) at member
    split at member
    · exact List.dropLast_subset _ member
    · exact member
  exact not_isLineBoundary_of_mem_linePieces piece inside

/-- A stretch without line boundaries goes in front of the first piece of what is behind it. -/
theorem linePieces_append {front cs first : List Char} {pieces : List (List Char)}
    (free : ∀ c ∈ front, isLineBoundary c = false) (rest : linePieces cs = first :: pieces) :
    linePieces (front ++ cs) = (front ++ first) :: pieces := by
  induction front with
  | nil => exact rest
  | cons c front ih =>
    obtain ⟨here, later⟩ := List.forall_mem_cons.mp free
    have noReturn : ¬ (c = '\r' ∧ (front ++ cs).head? = some '\n') := by
      rintro ⟨rfl, -⟩
      cases here
    rw [List.cons_append, linePieces_cons, if_neg noReturn, here, if_neg Bool.false_ne_true, ih later]
    rfl

theorem linePieces_intercalate {pieces : List (List Char)} (some : pieces ≠ [])
    (free : ∀ piece ∈ pieces, ∀ c ∈ piece, isLineBoundary c = false) :
    linePieces (['\n'].intercalate pieces) = pieces := by
  induction pieces with
  | nil => exact absurd rfl some
  | cons piece pieces ih =>
    obtain ⟨here, later⟩ := List.forall_mem_cons.mp free
    cases pieces with
    | nil =>
      have alone := linePieces_append here (rfl : linePieces [] = [[]])
      rw [List.append_nil] at alone
      rw [List.intercalate_singleton, alone]
    | cons next pieces =>
      have feed : linePieces ('\n' :: ['\n'].intercalate (next :: pieces)) = [] :: next :: pieces := by
        have boundary : isLineBoundary '\n' = true := rfl
        rw [linePieces_cons, if_neg fun both => absurd both.1 (by decide), if_pos boundary,
          ih (List.cons_ne_nil _ _) later]
      rw [List.intercalate_cons_cons, List.append_assoc, List.singleton_append, linePieces_append here feed,
        List.append_nil]

/-- Lines that have no line boundary and are not empty are the lines of the text that they are joined to. -/
theorem lines_intercalate {pieces : List (List Char)} (filled : ∀ piece ∈ pieces, piece ≠ [])
    (free : ∀ piece ∈ pieces, ∀ c ∈ piece, isLineBoundary c = false) :
    lines (['\n'].intercalate pieces) = pieces := by
  by_cases none : pieces = []
  · rw [none]
    rfl
  · change (if (linePieces _).getLast? = some [] then (linePieces _).dropLast else linePieces _) = pieces
    rw [linePieces_intercalate none free, if_neg]
    intro last
    exact filled [] (List.mem_of_getLast? last) rfl

/-! ## Unified line ends -/

theorem unifyLineEnds_cons (c : Char) (cs : List Char) :
    unifyLineEnds (c :: cs) =
      if c = '\r' then (if cs.head? = some '\n' then unifyLineEnds cs else '\n' :: unifyLineEnds cs)
      else c :: unifyLineEnds cs := by
  cases cs <;> rfl

theorem linePieces_unifyLineEnds (cs : List Char) : linePieces (unifyLineEnds cs) = linePieces cs := by
  induction cs with
  | nil => rfl
  | cons c cs ih =>
    rw [unifyLineEnds_cons, linePieces_cons]
    by_cases return_ : c = '\r'
    · subst return_
      by_cases together : cs.head? = some '\n'
      · rw [if_pos rfl, if_pos together, if_pos ⟨rfl, together⟩, ih]
      · rw [if_pos rfl, if_neg together, if_neg fun both => together both.2, linePieces_cons, ih]
        rfl
    · rw [if_neg return_, if_neg fun both => return_ both.1, linePieces_cons, if_neg fun both => return_ both.1, ih]

/-- A text has the same lines when its line ends are unified. -/
theorem lines_unifyLineEnds (cs : List Char) : lines (unifyLineEnds cs) = lines cs := by
  have pieces := linePieces_unifyLineEnds cs
  unfold linePieces at pieces
  unfold lines
  rw [pieces]

/-! ## Lists -/

theorem splitBy_cons (p : Char → Bool) (c : Char) (cs : List Char) :
    splitBy p (c :: cs) = if p c then [] :: splitBy p cs else consFirst c (splitBy p cs) := rfl

theorem splitBy_eq_splitOn (sep : Char) (cs : List Char) : splitBy (· == sep) cs = cs.splitOn sep := by
  induction cs with
  | nil => rfl
  | cons c cs ih =>
    have filled : cs.splitOn sep ≠ [] := List.splitOnP_ne_nil _ _
    rw [splitBy_cons, ih, consFirst_eq_modifyHead c filled]
    exact (List.splitOnP_cons_eq_if_modifyHead (p := (· == sep)) c cs).symm

/-- A piece has characters of the text, and no separator. -/
theorem mem_of_mem_splitBy {p : Char → Bool} {cs piece : List Char} (member : piece ∈ splitBy p cs) {d : Char}
    (inside : d ∈ piece) : d ∈ cs ∧ p d = false := by
  induction cs generalizing piece with
  | nil =>
    rw [List.mem_singleton.mp member] at inside
    cases inside
  | cons c cs ih =>
    rw [splitBy_cons] at member
    split at member
    · rcases List.mem_cons.mp member with rfl | later
      · cases inside
      · exact (ih later inside).imp_left (List.mem_cons_of_mem c)
    · next inner =>
      rcases mem_consFirst member inside with rfl | ⟨old, below, inside⟩
      · exact ⟨List.mem_cons_self, Bool.not_eq_true _ ▸ inner⟩
      · exact (ih below inside).imp_left (List.mem_cons_of_mem c)

theorem mem_of_mem_trim {cs : List Char} {c : Char} (inside : c ∈ trim cs) : c ∈ cs := by
  obtain ⟨front, back, parts, -, -⟩ := exists_ends cs
  rw [parts]
  exact List.mem_append_left back (List.mem_append_right front inside)

/-- An item of a list: it is trimmed and not blank, and the separator is not in it. -/
structure IsItem (sep : Char) (item : String) : Prop where
  trimmed : Trimmed item.toList
  filled : item ≠ ""
  free : sep ∉ item.toList

theorem IsItem.strip_eq {sep : Char} {item : String} (h : IsItem sep item) : strip item = item := by
  rw [strip, trim_of_trimmed h.trimmed, String.ofList_toList]

/-- What a text lists are items, made of characters of the text. -/
theorem isItem_of_mem_listed {sep : Char} {text item : String} (member : item ∈ listed sep text) :
    IsItem sep item ∧ ∀ c ∈ item.toList, c ∈ text.toList := by
  obtain ⟨stripped, filled⟩ := List.mem_filter.mp member
  obtain ⟨part, split, rfl⟩ := List.mem_map.mp stripped
  obtain ⟨piece, cut, rfl⟩ := List.mem_map.mp split
  have chars : (strip (String.ofList piece)).toList = trim piece := by
    rw [strip, String.toList_ofList, String.toList_ofList]
  have inner : ∀ c ∈ trim piece, c ∈ text.toList ∧ (c == sep) = false :=
    fun c inside => mem_of_mem_splitBy cut (mem_of_mem_trim inside)
  refine ⟨⟨?_, of_decide_eq_true filled, ?_⟩, ?_⟩
  · rw [chars]
    exact trimmed_trim piece
  · rw [chars]
    intro inside
    have other := (inner sep inside).2
    rw [beq_self_eq_true] at other
    cases other
  · rw [chars]
    exact fun c inside => (inner c inside).1

/-- Items are what the text that they are joined to lists. -/
theorem listed_intercalate {sep : Char} {items : List String} (all : ∀ item ∈ items, IsItem sep item) :
    listed sep ((String.singleton sep).intercalate items) = items := by
  have kept : (items.map strip).filter (· ≠ "") = items := by
    have same : items.map strip = items :=
      (List.map_congr_left fun item member => (all item member).strip_eq).trans (List.map_id items)
    rw [same, List.filter_eq_self]
    exact fun item member => decide_eq_true (all item member).filled
  by_cases none : items = []
  · rw [none]
    rfl
  · have filled : items.map String.toList ≠ [] := mt List.map_eq_nil_iff.mp none
    have free : ∀ piece ∈ items.map String.toList, sep ∉ piece :=
      List.forall_mem_map.mpr fun item member => (all item member).free
    have back : (items.map String.toList).map String.ofList = items := by
      rw [List.map_map]
      exact (List.map_congr_left fun item _ => String.ofList_toList).trans (List.map_id items)
    rw [listed, splitAt, String.toList_intercalate, String.toList_singleton, splitBy_eq_splitOn,
      List.splitOn_intercalate sep free filled, back, kept]

/-- An item is all that it lists. -/
theorem IsItem.listed_eq {sep : Char} {item : String} (h : IsItem sep item) : listed sep item = [item] := by
  have items : ∀ other ∈ [item], IsItem sep other := List.forall_mem_singleton.mpr h
  have alone := listed_intercalate items
  rwa [String.intercalate_singleton] at alone

end SpellLint.Text
