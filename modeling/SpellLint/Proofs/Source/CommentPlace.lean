import Mathlib
import SpellLint.Proofs.Source.Nodes
import SpellLint.Proofs.Source.Rows
import SpellLint.Source.Parsed

/-! # Where comments stand

The scan finds every comment in its row, at its column. Its node takes the row for a line. So the node covers the
comment itself if and only if no carriage return without a line feed stands in the rows above; and what it covers is
one line unless such a carriage return stands in the comment, which only a line feed ends if nothing but blanks stands
in front of it.
-/

set_option autoImplicit false

namespace SpellLint

/-- The part of a text that a span covers. -/
def Span.cut (s : Span) (cs : List Char) : List Char := (cs.drop s.start.toNat).take (s.stop - s.start).toNat

end SpellLint

namespace SpellLint.Source

open SpellLint.Text

/-! ## Comments in their rows -/

/-- A comment stands in a line at its column. It starts with a number sign and has no line feed, and no carriage
return at the end. -/
structure Comment.InLine (c : Comment) (line : List Char) : Prop where
  marked : c.text.head? = some '#'
  placed : c.text <+: line.drop c.column
  single : '\n' ∉ c.text
  trimmed : c.text.getLast? ≠ some '\r'

/-- All comments of a list stand in their rows. -/
def AllInRows (rows : List (List Char)) (found : List Comment) : Prop :=
  ∀ c ∈ found, ∃ line, rows[c.row]? = some line ∧ c.InLine line

section

variable {rows : List (List Char)} {found : List Comment} {row : Nat} {line : List Char}

theorem AllInRows.cons {c : Comment} (h : AllInRows rows found) (here : rows[c.row]? = some line)
    (stands : c.InLine line) : AllInRows rows (c :: found) := by
  intro d hd
  rcases List.mem_cons.mp hd with rfl | hd
  · exact ⟨line, here, stands⟩
  · exact h d hd

theorem nextItem_eq_comment {c : Char} {cs : List Char} {n : Nat} (h : nextItem c cs = .comment n) :
    c = '#' ∧ n = ((c :: cs).takeWhile (fun d => d ≠ '\r' && d ≠ '\n')).length := by
  unfold nextItem at h
  by_cases mark : c = '#'
  · subst mark
    simp only [Char.reduceEq, if_false, if_true] at h
    exact ⟨rfl, (Item.comment.inj h).symm⟩
  · exfalso
    grind

/-- A comment behind something else ends in front of a carriage return or a line feed. -/
theorem inLine_of_nextItem {column n : Nat} {c : Char} {cs : List Char} (rest : line.drop column = c :: cs)
    (h : nextItem c cs = .comment n) : Comment.InLine ⟨row, column, (c :: cs).take n⟩ line := by
  obtain ⟨rfl, rfl⟩ := nextItem_eq_comment h
  have text : ('#' :: cs).take (('#' :: cs).takeWhile (fun d => d ≠ '\r' && d ≠ '\n')).length =
      ('#' :: cs).takeWhile (fun d => d ≠ '\r' && d ≠ '\n') := by
    conv => lhs; arg 2; rw [← List.takeWhile_append_dropWhile (l := '#' :: cs) (p := fun d => d ≠ '\r' && d ≠ '\n')]
    exact List.take_left
  have plain : ∀ d ∈ ('#' :: cs).takeWhile (fun d => d ≠ '\r' && d ≠ '\n'), d ≠ '\r' ∧ d ≠ '\n' := by
    intro d hd
    simpa using List.mem_takeWhile_imp hd
  refine ⟨?_, ?_, ?_, ?_⟩
  · rw [text]
    rfl
  · rw [text, rest]
    exact List.takeWhile_prefix _
  · rw [text]
    exact fun inside => (plain _ inside).2 rfl
  · rw [text]
    exact fun last => (plain _ (List.mem_of_getLast? last)).1 rfl

/-- The rest of a row adds comments that stand in the row. -/
theorem allInRows_scanRest {steps column : Nat} {s : ScanState} {rest : List Char} (here : rows[row]? = some line)
    (behind : line.drop column = rest) (h : AllInRows rows found) :
    AllInRows rows (scanRest row steps column s found rest).2 := by
  have further {k m : Nat} {ds : List Char} (h : line.drop k = ds) : line.drop (k + m) = ds.drop m := by
    rw [← h, List.drop_drop]
  fun_induction scanRest row steps column s found rest with
  | case1 | case2 | case7 => exact h
  | case3 steps column s found c cs n item ih => exact ih (further behind) h
  | case4 steps column s found c cs n item ih =>
    exact ih (further behind) (h.cons here (inLine_of_nextItem behind item))
  | case5 steps column s found c cs change item ih => exact ih (further behind) h
  | case6 steps column s found c cs n item ih => exact ih (further behind) h

theorem allInRows_of_scanRest {steps column : Nat} {s s' : ScanState} {rest : List Char} {found' : List Comment}
    (here : rows[row]? = some line) (behind : line.drop column = rest) (h : AllInRows rows found)
    (scanned : scanRest row steps column s found rest = (s', found')) : AllInRows rows found' := by
  obtain rfl : (scanRest row steps column s found rest).2 = found' := congrArg Prod.snd scanned
  exact allInRows_scanRest here behind h

theorem drop_of_scanDepth {depth n reached m : Nat} {cs rest : List Char} (behind : line.drop n = cs)
    (h : scanDepth depth n cs = (reached, m, rest)) : line.drop m = rest := by
  have next {c : Char} {cs : List Char} {n : Nat} (h : line.drop n = c :: cs) : line.drop (n + 1) = cs := by
    rw [← List.drop_drop, h, List.drop_one, List.tail_cons]
  fun_induction scanDepth depth n cs with
  | case1 depth n cs ih => exact ih (next behind) h
  | case2 depth n cs ih => exact ih (next behind) h
  | case3 depth n cs ih => exact ih (next behind) h
  | case4 depth n cs =>
    obtain ⟨_, rfl, rfl⟩ := h
    exact behind

/-- A comment behind blanks only ends with its row, without the carriage returns and the line feed there. -/
theorem inLine_of_blanks {column : Nat} {cs : List Char} (closed : '\n' ∉ line.dropLast)
    (rest : line.drop column = '#' :: cs) :
    Comment.InLine ⟨row, column, dropEndWhile (fun d => d == '\r' || d == '\n') ('#' :: cs)⟩ line := by
  have text : dropEndWhile (fun d => d == '\r' || d == '\n') ('#' :: cs) =
      ('#' :: cs).rdropWhile (fun d => d == '\r' || d == '\n') := rfl
  rw [text]
  have front := List.rdropWhile_prefix (fun d => d == '\r' || d == '\n') ('#' :: cs)
  have last := List.rdropWhile_last_not (fun d => d == '\r' || d == '\n') ('#' :: cs)
  rcases List.eq_nil_or_concat (('#' :: cs).rdropWhile (fun d => d == '\r' || d == '\n')) with none | ⟨inner, d, text⟩
  · rw [List.rdropWhile_eq_nil_iff] at none
    exact absurd (none '#' List.mem_cons_self) (by decide)
  · rw [List.concat_eq_append] at text
    rw [text] at front last ⊢
    have other : d ≠ '\r' ∧ d ≠ '\n' := by simpa using last
    have inside : '\n' ∉ inner := by
      intro feed
      obtain ⟨more, whole⟩ := front
      rw [List.append_assoc, ← rest] at whole
      have cut := congrArg List.dropLast whole
      rw [List.dropLast_append_of_ne_nil (by simp), List.dropLast_drop_eq_drop_dropLast] at cut
      exact closed (List.mem_of_mem_drop (cut ▸ List.mem_append_left _ feed))
    refine ⟨?_, ?_, ?_, ?_⟩
    · obtain ⟨more, whole⟩ := front
      have first := congrArg List.head? whole
      rwa [List.head?_append_of_ne_nil _ (by simp), List.head?_cons] at first
    · rw [rest]
      exact front
    · rw [List.mem_append, List.mem_singleton]
      rintro (feed | feed)
      · exact inside feed
      · exact other.2 feed.symm
    · rw [List.getLast?_concat]
      exact fun h => other.1 (Option.some.inj h)

/-- What the scan finds stands in its row. -/
theorem allInRows_scanLines {s : ScanState} {lines : List (List Char)} (closed : ∀ line ∈ rows, '\n' ∉ line.dropLast)
    (behind : rows.drop row = lines) (h : AllInRows rows found) : AllInRows rows (scanLines row s found lines).1 := by
  have next {row : Nat} {line : List Char} {lines : List (List Char)} (h : rows.drop row = line :: lines) :
      rows[row]? = some line ∧ rows.drop (row + 1) = lines := by
    refine ⟨?_, ?_⟩
    · rw [← Nat.add_zero row, ← List.getElem?_drop, h]
      rfl
    · rw [← List.drop_drop, h, List.drop_one, List.tail_cons]
  fun_induction scanLines row s found lines with
  | case1 | case2 | case6 | case9 => exact h
  | case3 row s found line lines l _ n _ s' found' scanned ih =>
    obtain ⟨here, more⟩ := next behind
    exact ih more (allInRows_of_scanRest here rfl h scanned)
  | case4 row s found line lines l _ _ _ ih => exact ih (next behind).2 h
  | case5 row s found line lines l _ _ _ ih => exact ih (next behind).2 h
  | case7 row s found line lines _ _ depth n cs blanks text ih =>
    obtain ⟨here, more⟩ := next behind
    have rest := drop_of_scanDepth (List.drop_zero : line.drop 0 = line) blanks
    exact ih more (h.cons here (inLine_of_blanks (closed line (List.mem_of_getElem? here)) rest))
  | case8 row s found line lines _ _ depth n c cs _ _ _ ih => exact ih (next behind).2 h
  | case10 row s found line lines _ _ depth n c cs blanks _ _ depths _ s' found' scanned ih =>
    obtain ⟨here, more⟩ := next behind
    have rest := drop_of_scanDepth (List.drop_zero : line.drop 0 = line) blanks
    exact ih more (allInRows_of_scanRest here rest h scanned)
  | case11 row s found line lines _ _ s' found' scanned ih =>
    obtain ⟨here, more⟩ := next behind
    exact ih more (allInRows_of_scanRest here List.drop_zero h scanned)

end

/-! ## Comments in the text -/

/-- Where a comment stands in a text: behind the rows above and the columns in front of it. -/
def Comment.offset (cs : List Char) (c : Comment) : Nat := startOf (scanRows cs) c.row + c.column

/-- The span of a comment in a text. -/
def Comment.span (cs : List Char) (c : Comment) : Span := ⟨c.offset cs, c.offset cs + c.text.length⟩

/-- A comment stands in a text where its row and its column say. It starts with a number sign and has no line feed,
and no carriage return at the end. -/
structure Comment.StandsIn (cs : List Char) (c : Comment) : Prop where
  inside : c.row < (scanRows cs).length
  marked : c.text.head? = some '#'
  placed : c.text <+: cs.drop (c.offset cs)
  single : '\n' ∉ c.text
  trimmed : c.text.getLast? ≠ some '\r'

theorem Comment.InLine.standsIn {cs line : List Char} {c : Comment} (h : c.InLine line)
    (here : (scanRows cs)[c.row]? = some line) : c.StandsIn cs := by
  obtain ⟨marked, placed, single, trimmed⟩ := h
  obtain ⟨inside, rfl⟩ := List.getElem?_eq_some_iff.mp here
  refine ⟨inside, marked, ?_, single, trimmed⟩
  have text : cs.drop (startOf (scanRows cs) c.row) = ((scanRows cs).drop c.row).flatten := by
    conv => lhs; arg 2; rw [← flatten_scanRows cs, ← List.take_append_drop c.row (scanRows cs), List.flatten_append]
    exact List.drop_left
  have short : c.column ≤ (scanRows cs)[c.row].length := by
    apply Nat.le_of_not_lt
    intro long
    rw [List.drop_of_length_le (Nat.le_of_lt long), List.prefix_nil] at placed
    rw [placed] at marked
    cases marked
  rw [Comment.offset, ← List.drop_drop, text, List.drop_eq_getElem_cons inside, List.flatten_cons,
    List.drop_append_of_le_length short]
  exact placed.trans (List.prefix_append _ _)

/-- What the scan finds stands in the text where it was found. -/
theorem standsIn_of_mem_scanComments {cs : List Char} {c : Comment} (h : c ∈ (scanComments cs).1) : c.StandsIn cs := by
  have found : AllInRows (scanRows cs) (scanLines 0 ⟨none, false, 0, false, [0]⟩ [] (scanRows cs)).1 :=
    allInRows_scanLines (fun _ => lineFeed_notMem_dropLast) List.drop_zero (fun _ h => absurd h List.not_mem_nil)
  obtain ⟨line, here, stands⟩ := found c (List.mem_reverse.mp h)
  exact stands.standsIn here

theorem Comment.StandsIn.cut_span {cs : List Char} {c : Comment} (h : c.StandsIn cs) :
    (c.span cs).cut cs = c.text := by
  have length : (((c.offset cs : Int) + c.text.length) - (c.offset cs : Int)).toNat = c.text.length := by omega
  rw [Comment.span, Span.cut, length, Int.toNat_natCast]
  exact (List.prefix_iff_eq_take.mp h.placed).symm

/-- A carriage return in a comment is followed by something else than a line feed. -/
theorem Comment.StandsIn.hasLoneReturn {cs : List Char} {c : Comment} (h : c.StandsIn cs) (inside : '\r' ∈ c.text) :
    HasLoneReturn cs := by
  obtain ⟨front, back, text⟩ := List.append_of_mem inside
  obtain ⟨more, placed⟩ := h.placed
  have whole := List.take_append_drop (c.offset cs) cs
  rw [← placed, text, List.append_assoc, List.cons_append, ← List.append_assoc] at whole
  refine ⟨_, _, whole.symm, ?_⟩
  cases back with
  | nil => exact absurd (by rw [text, List.getLast?_concat]) h.trimmed
  | cons d back =>
    intro feed
    obtain rfl : d = '\n' := Option.some.inj feed
    exact h.single (text ▸ List.mem_append_right front (List.mem_cons_of_mem _ List.mem_cons_self))

/-! ## Nodes of comments -/

/-- What a node covers is a comment on one line, and the text of the node is its prose. -/
def ShowsComment (cs : List Char) (n : Node) : Prop :=
  (n.span.cut cs).head? = some '#' ∧ (∀ d ∈ n.span.cut cs, d ≠ '\r' ∧ d ≠ '\n') ∧
    n.text = some (String.ofList (trim ((n.span.cut cs).dropWhile (· = '#'))))

theorem prose_eq_some {c : Comment} {text : String} (h : prose c = some text) :
    text = String.ofList (trim (c.text.dropWhile (· = '#'))) := by
  unfold prose at h
  split at h
  · cases h
  · simp only [Option.ite_none_left_eq_some, Option.some.injEq] at h
    exact h.2.symm

/-- The node of a comment takes the row for a line. -/
theorem commentNode_eq_some {cs : List Char} {c : Comment} {n : Node} (stands : c.StandsIn cs)
    (h : commentNode (.ofChars cs) c = some n) :
    n.span.start = startOf (cutLines cs) c.row + c.column ∧ n.span.stop = n.span.start + c.text.length ∧
      n.kind = .comment ∧ n.text = some (String.ofList (trim (c.text.dropWhile (· = '#')))) := by
  have inside : c.row < (cutLines cs).length := Nat.lt_of_lt_of_le stands.inside (length_scanRows_le cs)
  obtain ⟨text, prosaic, rfl⟩ := Option.map_eq_some_iff.mp h
  rw [LineTable.getD_starts cs inside]
  exact ⟨by simp, rfl, rfl, congrArg some (prose_eq_some prosaic)⟩

section

variable {cs : List Char} {c : Comment} {n : Node}

/-- The node of a comment covers the comment itself unless a carriage return without a line feed stands in the rows
above. -/
theorem span_eq_iff (stands : c.StandsIn cs) (h : commentNode (.ofChars cs) c = some n) :
    n.span = c.span cs ↔ ¬ HasLoneReturn (textAbove cs c.row) := by
  obtain ⟨start, stop, _, _⟩ := commentNode_eq_some stands h
  rw [← startOf_cutLines_eq_iff stands.inside]
  constructor
  · intro same
    rw [same] at start
    have start : ((startOf (scanRows cs) c.row + c.column : Nat) : Int) = _ := start
    omega
  · intro same
    have first : n.span.start = c.offset cs := by
      rw [start, same, Comment.offset, Int.natCast_add]
    rw [Comment.span, ← first, ← stop]

/-- A node that covers the comment itself shows it, unless the comment has a carriage return. -/
theorem showsComment_iff (stands : c.StandsIn cs) (h : commentNode (.ofChars cs) c = some n)
    (own : n.span = c.span cs) : ShowsComment cs n ↔ '\r' ∉ c.text := by
  obtain ⟨_, _, _, text⟩ := commentNode_eq_some stands h
  unfold ShowsComment
  rw [own, stands.cut_span]
  constructor
  · intro ⟨_, plain, _⟩ inside
    exact (plain _ inside).1 rfl
  · intro plain
    refine ⟨stands.marked, ?_, text⟩
    intro d hd
    exact ⟨fun same => plain (same ▸ hd), fun same => stands.single (same ▸ hd)⟩

end

/-! ## The comments of a source -/

/-- A source keeps its text and the table of its lines. -/
theorem eq_of_parsed {path : Path} {text : String} {p : Parsed} (h : Parsed.parse path text = .ok p) :
    p.text = text.toList ∧ p.lines = .ofChars p.text := by
  change (Grammar.readModule text.toList >>= fun m => .ok ⟨path, text.toList, .ofChars text.toList, m⟩) = .ok p at h
  cases read : Grammar.readModule text.toList with
  | error e =>
    rw [read] at h
    cases h
  | ok m =>
    rw [read] at h
    obtain rfl := Except.ok.inj h
    exact ⟨rfl, rfl⟩

theorem exists_parsed {path : Path} {text : String} (h : (Parsed.parse path text).toOption.isSome = true) :
    ∃ p, Parsed.parse path text = .ok p := by
  cases parsed : Parsed.parse path text with
  | error e =>
    rw [parsed] at h
    cases h
  | ok p => exact ⟨p, rfl⟩

theorem kind_ne_comment {p : Parsed} {n : Node} (h : n ∈ p.treeNodes) : n.kind ≠ .comment := by
  rw [Parsed.treeNodes, moduleNodes_eq, List.mem_append, List.mem_flatMap] at h
  rcases h with head | ⟨o, -, here⟩
  · obtain ⟨k, marked, rfl⟩ := List.mem_map.mp head
    rcases List.mem_cons.mp marked with rfl | doc
    · exact NodeKind.noConfusion
    · unfold docMarks at doc
      split at doc
      · rw [List.mem_singleton.mp doc]
        exact NodeKind.noConfusion
      · cases doc
  · intro kind
    have visible := visibleByPath_of_mem p.lines p.moduleName p.module here
    rw [VisibleByPath, kind] at visible
    exact visible

theorem value_nodes (p : Parsed) :
    p.nodes.value = p.treeNodes ++ (scanComments p.text).1.filterMap (commentNode p.lines) := by
  have comments : p.commentNodes.value = (scanComments p.text).1.filterMap (commentNode p.lines) := by
    unfold Parsed.commentNodes
    split
    next comments fault scanned =>
      rw [scanned]
      cases fault <;> rfl
  rw [Parsed.nodes, Logged.value_bind, Logged.value_pure, comments]

/-- The comment nodes of a source are those of the comments that the scan finds, each of which stands in the text. The
node shows its comment if and only if no carriage return without a line feed stands in the rows above or in the
comment; if there is none in the source, all nodes do. -/
theorem comments_shown_iff {path : Path} {text : String} {p : Parsed} (parsed : Parsed.parse path text = .ok p) :
    p.text = text.toList ∧
      (∀ n, (n ∈ p.nodes.value ∧ n.kind = .comment) ↔
        ∃ c ∈ (scanComments p.text).1, commentNode p.lines c = some n) ∧
      (∀ c ∈ (scanComments p.text).1, c.StandsIn p.text) ∧
      (∀ c ∈ (scanComments p.text).1, ∀ n, commentNode p.lines c = some n →
        (n.span = c.span p.text ∧ ShowsComment p.text n ↔
          ¬ HasLoneReturn (textAbove p.text c.row) ∧ '\r' ∉ c.text)) ∧
      (¬ HasLoneReturn p.text → ∀ n ∈ p.nodes.value, n.kind = .comment → ShowsComment p.text n) := by
  obtain ⟨whole, lines⟩ := eq_of_parsed parsed
  have nodes (n : Node) : (n ∈ p.nodes.value ∧ n.kind = .comment) ↔
      ∃ c ∈ (scanComments p.text).1, commentNode p.lines c = some n := by
    rw [value_nodes, List.mem_append, ← List.mem_filterMap]
    constructor
    · rintro ⟨tree | comment, kind⟩
      · exact absurd kind (kind_ne_comment tree)
      · exact comment
    · intro comment
      obtain ⟨c, found, shown⟩ := List.mem_filterMap.mp comment
      rw [lines] at shown
      exact ⟨.inr comment, (commentNode_eq_some (standsIn_of_mem_scanComments found) shown).2.2.1⟩
  have each : ∀ c ∈ (scanComments p.text).1, ∀ n, commentNode p.lines c = some n →
      (n.span = c.span p.text ∧ ShowsComment p.text n ↔
        ¬ HasLoneReturn (textAbove p.text c.row) ∧ '\r' ∉ c.text) := by
    intro c found n shown
    rw [lines] at shown
    have stands := standsIn_of_mem_scanComments found
    rw [← span_eq_iff stands shown]
    exact and_congr_right (showsComment_iff stands shown)
  refine ⟨whole, nodes, fun c => standsIn_of_mem_scanComments, each, ?_⟩
  intro settled n member kind
  obtain ⟨c, found, shown⟩ := (nodes n).mp ⟨member, kind⟩
  have stands := standsIn_of_mem_scanComments found
  have above : ¬ HasLoneReturn (textAbove p.text c.row) := by
    intro lone
    apply settled
    refine lone.of_take ?_
    rcases (scanRows_textAbove stands.inside).2 with empty | closed
    · change (textAbove p.text c.row).getLast? ≠ _
      rw [empty]
      decide
    · change (textAbove p.text c.row).getLast? ≠ _
      rw [closed]
      decide
  exact ((each c found n shown).mpr ⟨above, fun inside => settled (stands.hasLoneReturn inside)⟩).2

/-- Line ends of two characters do no harm. -/
theorem comments_shown_iff_pairs :
    ∃ p, Parsed.parse ⟨"", ["mod.py"]⟩ "# one\r\n# two\r\n" = .ok p ∧
      (⟨⟨7, 12⟩, .comment, some "two", false⟩ : Node) ∈ p.nodes.value ∧
      ∀ n ∈ p.nodes.value, n.kind = .comment → ShowsComment p.text n := by
  have reads : (Parsed.parse ⟨"", ["mod.py"]⟩ "# one\r\n# two\r\n").toOption.isSome = true := by cbv
  obtain ⟨p, parsed⟩ := exists_parsed reads
  obtain ⟨text, lines⟩ := eq_of_parsed parsed
  obtain ⟨_, nodes, _, _, shown⟩ := comments_shown_iff parsed
  have settled : ¬ HasLoneReturn p.text := by
    rw [text]
    simp [hasLoneReturn_cons, not_hasLoneReturn_nil]
  have second : ∃ c ∈ (scanComments p.text).1, commentNode p.lines c =
      some (⟨⟨7, 12⟩, .comment, some "two", false⟩ : Node) := by
    rw [lines, text]
    decide +kernel
  exact ⟨p, parsed, ((nodes _).mpr second).1, shown settled⟩

/-! ## A carriage return above a comment -/

/-- A source with a carriage return that ends a line, but no row. -/
def loneReturn : String := "\r \n# note\n"

/-- The comment of the second row is shown at what starts in the second line. -/
theorem lone_return_moves_comment :
    ∃ p, Parsed.parse ⟨"", ["mod.py"]⟩ loneReturn = .ok p ∧
      ∃ n ∈ p.nodes.value, n = ⟨⟨1, 7⟩, .comment, some "note", false⟩ ∧
        n.span.cut p.text = " \n# no".toList ∧ ¬ ShowsComment p.text n := by
  have reads : (Parsed.parse ⟨"", ["mod.py"]⟩ loneReturn).toOption.isSome = true := by cbv
  obtain ⟨p, parsed⟩ := exists_parsed reads
  obtain ⟨text, lines⟩ := eq_of_parsed parsed
  have comment : (⟨⟨1, 7⟩, .comment, some "note", false⟩ : Node) ∈
      (scanComments p.text).1.filterMap (commentNode p.lines) := by
    rw [lines, text]
    decide +kernel
  have covered : Span.cut ⟨1, 7⟩ p.text = " \n# no".toList := by
    rw [text]
    decide +kernel
  refine ⟨p, parsed, ⟨⟨1, 7⟩, .comment, some "note", false⟩, ?_, rfl, covered, ?_⟩
  · rw [value_nodes]
    exact List.mem_append_right _ comment
  · rintro ⟨_, plain, _⟩
    rw [covered] at plain
    exact (plain '\n' (by decide +kernel)).2 rfl

end SpellLint.Source
