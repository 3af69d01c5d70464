import Mathlib.Order.Bounds.Defs
import SpellLint.Proofs.Source.Rows
import SpellLint.Proofs.Text.Lines

/-! # The table of a text

The table of a text keeps the lines of the text with their starts. They are as many as the text has after its line ends
are unified (`LinesOf.scanRows_unifyLineEnds`), the line of an offset is the last that does not start behind it
(`LineTable.isGreatest_lineOf`), and what is shown of a line reaches up to its end (`LineTable.firstLine_eq`).
-/

set_option autoImplicit false

namespace SpellLint.Source

open SpellLint.Text

variable {cs : List Char} {lines : List (List Char)}

/-! ## Lines with unified ends -/

theorem unifyLineEnds_bare_append {body : List Char} (bare : IsBare body) (cs : List Char) :
    Text.unifyLineEnds (body ++ cs) = body ++ Text.unifyLineEnds cs := by
  induction body with
  | nil => rfl
  | cons c body ih =>
    obtain ⟨noReturn, noFeed⟩ := bare
    rw [List.mem_cons, not_or] at noReturn noFeed
    rw [List.cons_append, unifyLineEnds_cons, if_neg (Ne.symm noReturn.1), ih ⟨noReturn.2, noFeed.2⟩, List.cons_append]

theorem unifyLineEnds_end_append {ending : List Char} (ends : IsLineEnd ending)
    (whole : ending = ['\r'] → cs.head? ≠ some '\n') :
    Text.unifyLineEnds (ending ++ cs) = '\n' :: Text.unifyLineEnds cs := by
  rcases ends with rfl | rfl | rfl
  · rw [List.singleton_append, unifyLineEnds_cons, if_neg (by decide)]
  · rw [List.singleton_append, unifyLineEnds_cons, if_pos rfl, if_neg (whole rfl)]
  · rw [List.cons_append, List.singleton_append, unifyLineEnds_cons, if_pos rfl, List.head?_cons, if_pos rfl,
      unifyLineEnds_cons, if_neg (by decide)]

theorem scanRows_of_notMem {body : List Char} (filled : body ≠ []) (free : '\n' ∉ body) : scanRows body = [body] := by
  induction body with
  | nil => exact absurd rfl filled
  | cons c body ih =>
    rw [List.mem_cons, not_or] at free
    rw [scanRows_cons, if_neg (Ne.symm free.1)]
    by_cases last : body = []
    · rw [last]
      rfl
    · rw [ih last free.2]
      rfl

theorem scanRows_append_feed {body : List Char} (free : '\n' ∉ body) (cs : List Char) :
    scanRows (body ++ '\n' :: cs) = (body ++ ['\n']) :: scanRows cs := by
  induction body with
  | nil =>
    rw [List.nil_append, scanRows_cons, if_pos rfl]
    rfl
  | cons c body ih =>
    rw [List.mem_cons, not_or] at free
    rw [List.cons_append, scanRows_cons, if_neg (Ne.symm free.1), ih free.2]
    rfl

/-- A text with unified line ends has the lines of the text, each with its end unified. -/
theorem LinesOf.scanRows_unifyLineEnds (h : LinesOf cs lines) :
    scanRows (Text.unifyLineEnds cs) = lines.map Text.unifyLineEnds := by
  induction h with
  | empty => rfl
  | @unended body filled bare =>
    have same : Text.unifyLineEnds body = body := by
      have alone := unifyLineEnds_bare_append bare []
      rw [List.append_nil] at alone
      exact alone.trans (List.append_nil body)
    rw [List.map_singleton, same, scanRows_of_notMem filled bare.2]
  | @ended body ending cs lines bare ends whole rest ih =>
    have line : Text.unifyLineEnds (body ++ ending) = body ++ ['\n'] := by
      have alone : Text.unifyLineEnds (ending ++ []) = ['\n'] := unifyLineEnds_end_append ends fun _ => nofun
      rw [List.append_nil] at alone
      rw [unifyLineEnds_bare_append bare, alone]
    rw [unifyLineEnds_bare_append bare, unifyLineEnds_end_append ends whole, scanRows_append_feed bare.2, ih,
      List.map_cons, line]

/-! ## The table of a text -/

namespace LineTable

variable (cs)

/-- The line of an offset is the last that does not start behind it. -/
theorem isGreatest_lineOf {p i : Nat} (found : (ofChars cs).lineOf p = some i) :
    IsGreatest {j | j < (ofChars cs).count ∧ (ofChars cs).starts.getD j 0 ≤ p} i := by
  obtain ⟨inside, small, large⟩ := (lineOf_eq_some_iff cs).mp found
  constructor
  · rw [← getD_starts cs inside] at small
    exact ⟨inside, small⟩
  · rintro j ⟨listed, start⟩
    rw [getD_starts cs listed] at start
    exact Nat.le_of_not_lt fun behind => Nat.not_lt_of_le start (large j behind listed)

theorem firstLine_eq {p i : Nat} (found : (ofChars cs).lineOf p = some i) (stop : Int) :
    (ofChars cs).firstLine ⟨p, stop⟩ =
      some (String.ofList ((cs.drop ((ofChars cs).starts.getD i 0)).takeWhile (fun c => c ≠ '\r' && c ≠ '\n'))) := by
  obtain ⟨inside, -⟩ := (lineOf_eq_some_iff cs).mp found
  have here : (cutLines cs)[i]? = some (cutLines cs)[i] := List.getElem?_eq_getElem inside
  have line : (ofChars cs).lines[i]? = (cutLines cs)[i]? := by simp [ofChars]
  rw [getD_starts cs inside, ← (linesOf_cutLines cs).dropEndWhile_eq here, firstLine, found, Option.bind_some, line,
    here, Option.map_some]

end LineTable

/-- A table holds the lines of a text, and answers by them. -/
structure LineTable.Describes (t : LineTable) (cs : List Char) : Prop where
  /-- The lines make up the text. -/
  whole : t.lines.toList.flatten = cs
  filled : ∀ line ∈ t.lines, line ≠ []
  /-- A line has one line end, at its end; only the last may have none. -/
  ended : ∀ i line, t.lines[i]? = some line → IsEnded line ∨ IsBare line ∧ i + 1 = t.count
  /-- No line ends between a carriage return and a line feed. -/
  unsplit : t.lines.toList.IsChain fun line below => ¬ (line.getLast? = some '\r' ∧ below.head? = some '\n')
  /-- With their ends unified, the lines are those of the text with unified line ends. -/
  unified : t.lines.toList.map Text.unifyLineEnds = scanRows (Text.unifyLineEnds cs)
  counted : t.count = (scanRows (Text.unifyLineEnds cs)).length
  /-- There is a start for every line: the length of all lines before. -/
  listed : t.starts.size = t.count
  placed : ∀ i < t.count, t.starts.getD i 0 = (t.lines.toList.take i).flatten.length
  increasing : ∀ i j, i < j → j < t.count → t.starts.getD i 0 < t.starts.getD j 0
  /-- An offset is found in the last line that does not start behind it, and this line is shown without its end. -/
  found : cs ≠ [] → ∀ p : Nat, ∃ i, t.lineOf p = some i ∧
    IsGreatest {j | j < t.count ∧ t.starts.getD j 0 ≤ p} i ∧
    ∀ stop, t.firstLine ⟨p, stop⟩ =
      some (String.ofList ((cs.drop (t.starts.getD i 0)).takeWhile (fun c => c ≠ '\r' && c ≠ '\n')))

/-- The table of a text holds the lines of the text. -/
theorem ofString_describes (text : String) : (LineTable.ofString text).Describes text.toList := by
  have lines := linesOf_cutLines text.toList
  have unified := lines.scanRows_unifyLineEnds
  have count : (LineTable.ofString text).count = (cutLines text.toList).length := rfl
  refine ⟨flatten_cutLines _, ?_, ?_, lines.isChain, unified.symm, ?_, LineTable.size_starts _, ?_, ?_, ?_⟩
  · intro line member
    exact lines.ne_nil (List.mem_toArray.mp member)
  · intro i line here
    have listed : (cutLines text.toList)[i]? = some line := by
      rw [← here]
      exact List.getElem?_toArray.symm
    obtain ⟨body, ending, rest, -, rfl, bare, ends | ⟨rfl, -, last⟩⟩ := lines.exists_parts listed
    · exact .inl ⟨body, ending, bare, ends, rfl⟩
    · rw [List.append_nil]
      exact .inr ⟨bare, last⟩
  · rw [unified, List.length_map, count]
  · intro i inside
    exact LineTable.getD_starts _ inside
  · intro i j less inside
    have starts := lines.startOf_lt less (Nat.le_of_lt inside)
    rw [← LineTable.getD_starts _ inside, ← LineTable.getD_starts _ (Nat.lt_trans less inside)] at starts
    exact starts
  · intro filled p
    have held : (LineTable.ofChars text.toList).lineOf p ≠ none := by
      intro nothing
      apply filled
      rw [← flatten_cutLines text.toList, (LineTable.lineOf_eq_none_iff _).mp nothing]
      rfl
    obtain ⟨i, found⟩ := Option.ne_none_iff_exists'.mp held
    exact ⟨i, found, LineTable.isGreatest_lineOf _ found, LineTable.firstLine_eq _ found⟩

/-- A span that starts between a carriage return and its line feed starts in the line that they end. -/
theorem ofString_describes_pair :
    "é\r\n\rx".toList ≠ [] ∧ (LineTable.ofString "é\r\n\rx").count = 3 ∧
      (LineTable.ofString "é\r\n\rx").lineOf 2 = some 0 ∧
      (LineTable.ofString "é\r\n\rx").firstLine ⟨2, 4⟩ = some "é" := by
  have filled : "é\r\n\rx".toList ≠ [] := by decide
  have table := ofString_describes "é\r\n\rx"
  have line : (LineTable.ofString "é\r\n\rx").lineOf 2 = some 0 := by decide
  obtain ⟨i, found, -, shown⟩ := table.found filled 2
  obtain rfl : i = 0 := Option.some.inj (found.symm.trans line)
  exact ⟨filled, table.counted.trans (by decide), line, (shown 4).trans (by decide)⟩

end SpellLint.Source
