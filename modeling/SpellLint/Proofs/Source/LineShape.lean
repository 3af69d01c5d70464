import Mathlib.Data.List.Chain
import SpellLint.Proofs.Source.LineTable

/-! # The shape of lines

A line of a text is a stretch without line ends and then one line end, which only the last line may lack; a carriage
return is not a line end by itself where a line feed follows. This says of every text what its lines are
(`linesOf_cutLines`), so that what holds of lines is shown by induction on them: they make up the text, none is empty,
no line ends between a carriage return and its line feed (`LinesOf.isChain`), and from each line on they are the lines
of the rest of the text (`LinesOf.drop`).
-/

set_option autoImplicit false

namespace SpellLint.Source

open SpellLint.Text

variable {cs : List Char} {lines : List (List Char)}

/-! ## Lines and their ends -/

/-- A line end: a line feed, a carriage return, or both in this order. -/
def IsLineEnd (ending : List Char) : Prop := ending = ['\n'] ∨ ending = ['\r'] ∨ ending = ['\r', '\n']

/-- There is no line end among the characters. -/
def IsBare (body : List Char) : Prop := '\r' ∉ body ∧ '\n' ∉ body

/-- A line with a line end, and no other. -/
def IsEnded (line : List Char) : Prop := ∃ body ending, IsBare body ∧ IsLineEnd ending ∧ line = body ++ ending

theorem isBare_nil : IsBare [] := ⟨List.not_mem_nil, List.not_mem_nil⟩

theorem IsBare.cons {c : Char} {body : List Char} (noReturn : c ≠ '\r') (noFeed : c ≠ '\n') (bare : IsBare body) :
    IsBare (c :: body) :=
  ⟨List.not_mem_cons_of_ne_of_not_mem noReturn.symm bare.1, List.not_mem_cons_of_ne_of_not_mem noFeed.symm bare.2⟩

/-- A text with its lines. -/
inductive LinesOf : (cs : List Char) → (lines : List (List Char)) → Prop where
  | empty : LinesOf [] []
  | unended {body : List Char} (filled : body ≠ []) (bare : IsBare body) : LinesOf body [body]
  | ended {body ending cs : List Char} {lines : List (List Char)} (bare : IsBare body) (ends : IsLineEnd ending)
      (whole : ending = ['\r'] → cs.head? ≠ some '\n') (rest : LinesOf cs lines) :
      LinesOf (body ++ (ending ++ cs)) ((body ++ ending) :: lines)

namespace LinesOf

/-- A line of one character in front. -/
theorem cons_end (h : LinesOf cs lines) {c : Char} (ends : EndsLine c cs.head?) : LinesOf (c :: cs) ([c] :: lines) := by
  rcases ends with rfl | ⟨rfl, lone⟩
  · exact .ended isBare_nil (.inl rfl) (fun other => nomatch other) h
  · exact .ended isBare_nil (.inr (.inl rfl)) (fun _ => lone) h

/-- A character in front of the first line. -/
theorem cons_inner (h : LinesOf cs lines) {c : Char} (inner : ¬ EndsLine c cs.head?) :
    LinesOf (c :: cs) (consFirst c lines) := by
  have noFeed : c ≠ '\n' := fun feed => inner (.inl feed)
  have feed_of_return : c = '\r' → cs.head? = some '\n' :=
    fun return_ => Decidable.byContradiction fun lone => inner (.inr ⟨return_, lone⟩)
  cases h with
  | empty =>
    have noReturn : c ≠ '\r' := fun return_ => nomatch feed_of_return return_
    exact .unended (List.cons_ne_nil c []) (isBare_nil.cons noReturn noFeed)
  | unended filled bare =>
    have noReturn : c ≠ '\r' := fun return_ => bare.2 (List.mem_of_head? (feed_of_return return_))
    exact .unended (List.cons_ne_nil c _) (bare.cons noReturn noFeed)
  | @ended body ending below lines bare ends whole rest =>
    by_cases return_ : c = '\r'
    · -- A line feed follows the carriage return: the line is empty so far, and its end gets longer.
      subst return_
      have next := feed_of_return rfl
      cases body with
      | cons d body =>
        obtain rfl := Option.some.inj next
        exact absurd List.mem_cons_self bare.2
      | nil =>
        rcases ends with rfl | rfl | rfl
        · exact .ended isBare_nil (.inr (.inr rfl)) (fun other => nomatch other) rest
        · cases next
        · cases next
    · exact .ended (bare.cons return_ noFeed) ends whole rest

end LinesOf

theorem linesOf_cutLines (cs : List Char) : LinesOf cs (cutLines cs) := by
  induction cs with
  | nil => exact .empty
  | cons c cs ih =>
    rw [cutLines_cons]
    split
    · next ends => exact ih.cons_end ends
    · next inner => exact ih.cons_inner inner

namespace LinesOf

/-- The lines make up the text. -/
theorem flatten_eq (h : LinesOf cs lines) : lines.flatten = cs := by
  induction h with
  | empty => rfl
  | unended => exact List.append_nil _
  | ended bare ends whole rest ih => rw [List.flatten_cons, ih, List.append_assoc]

theorem ne_nil (h : LinesOf cs lines) {line : List Char} (member : line ∈ lines) : line ≠ [] := by
  induction h with
  | empty => cases member
  | unended filled =>
    rw [List.mem_singleton.mp member]
    exact filled
  | ended bare ends whole rest ih =>
    rcases List.mem_cons.mp member with rfl | below
    · rcases ends with rfl | rfl | rfl
      all_goals exact List.append_ne_nil_of_right_ne_nil _ (List.cons_ne_nil _ _)
    · exact ih below

theorem startOf_lt (h : LinesOf cs lines) {i j : Nat} (less : i < j) (inside : j ≤ lines.length) :
    startOf lines i < startOf lines j := by
  have here : i < lines.length := Nat.lt_of_lt_of_le less inside
  have next := startOf_succ (List.getElem?_eq_getElem here)
  have filled := List.length_pos_iff.mpr (h.ne_nil (List.getElem_mem here))
  have later : startOf lines (i + 1) ≤ startOf lines j := startOf_mono less
  omega

/-- From any line on, the lines are those of the rest of the text. -/
theorem drop (h : LinesOf cs lines) (i : Nat) : LinesOf (cs.drop (startOf lines i)) (lines.drop i) := by
  induction h generalizing i with
  | empty =>
    rw [List.drop_nil, List.drop_nil]
    exact .empty
  | @unended body filled bare =>
    cases i with
    | zero => exact .unended filled bare
    | succ i =>
      have behind : startOf [body] (i + 1) = body.length := by simp [startOf]
      rw [behind, List.drop_length, List.drop_succ_cons, List.drop_nil]
      exact .empty
  | @ended body ending below lines bare ends whole rest ih =>
    cases i with
    | zero => exact .ended bare ends whole rest
    | succ i =>
      have behind : startOf ((body ++ ending) :: lines) (i + 1) = (body ++ ending).length + startOf lines i := by
        simp [startOf, Nat.add_assoc]
      rw [behind, List.drop_succ_cons, ← List.append_assoc, ← List.drop_drop, List.drop_left]
      exact ih i

/-- A line is a stretch without line ends and then a line end, which only the last line may lack. -/
theorem exists_parts (h : LinesOf cs lines) {i : Nat} {line : List Char} (here : lines[i]? = some line) :
    ∃ body ending rest, cs.drop (startOf lines i) = body ++ (ending ++ rest) ∧ line = body ++ ending ∧ IsBare body ∧
      (IsLineEnd ending ∨ ending = [] ∧ rest = [] ∧ i + 1 = lines.length) := by
  obtain ⟨inside, rfl⟩ := List.getElem?_eq_some_iff.mp here
  have onward := h.drop i
  rw [List.drop_eq_getElem_cons inside] at onward
  generalize cs.drop (startOf lines i) = text, lines[i] = line, below : lines.drop (i + 1) = others at onward
  cases onward with
  | unended filled bare =>
    have last : lines.length ≤ i + 1 := List.drop_eq_nil_iff.mp below
    exact ⟨text, [], [], by simp, (List.append_nil text).symm, bare, .inr ⟨rfl, rfl, by omega⟩⟩
  | ended bare ends whole rest => exact ⟨_, _, _, rfl, rfl, bare, .inl ends⟩

/-- No line ends between a carriage return and a line feed. -/
theorem isChain (h : LinesOf cs lines) :
    lines.IsChain fun line below => ¬ (line.getLast? = some '\r' ∧ below.head? = some '\n') := by
  induction h with
  | empty => exact .nil
  | unended => exact .singleton _
  | @ended body ending cs lines bare ends whole rest ih =>
    refine List.isChain_cons.mpr ⟨?_, ih⟩
    rintro below first ⟨last, feed⟩
    have lone : ending = ['\r'] := by
      rcases ends with rfl | rfl | rfl
      · rw [List.getLast?_concat] at last
        exact absurd last (by decide)
      · rfl
      · rw [List.getLast?_append] at last
        cases last
    apply whole lone
    cases lines with
    | nil => cases first
    | cons line lines =>
      obtain rfl := Option.some.inj first
      rw [← rest.flatten_eq, List.flatten_cons, List.head?_append, feed]
      rfl

end LinesOf

/-- The lines of a text make up the text. -/
theorem flatten_cutLines (cs : List Char) : (cutLines cs).flatten = cs := (linesOf_cutLines cs).flatten_eq

/-! ## What is shown of a line -/

theorem IsBare.ne {body : List Char} (bare : IsBare body) {c : Char} (inside : c ∈ body) : c ≠ '\r' ∧ c ≠ '\n' :=
  ⟨fun same => bare.1 (same ▸ inside), fun same => bare.2 (same ▸ inside)⟩

theorem IsLineEnd.eq_of_mem {ending : List Char} (ends : IsLineEnd ending) {c : Char} (inside : c ∈ ending) :
    c = '\r' ∨ c = '\n' := by
  rcases ends with rfl | rfl | rfl
  · exact .inr (List.mem_singleton.mp inside)
  · exact .inl (List.mem_singleton.mp inside)
  · rw [List.mem_cons, List.mem_singleton] at inside
    exact inside

/-- Of a line that has a line end, or none, what stands in front of the end is left. -/
theorem dropEndWhile_parts {body ending : List Char} (bare : IsBare body) (ends : IsLineEnd ending ∨ ending = []) :
    dropEndWhile (fun c => c == '\r' || c == '\n') (body ++ ending) = body := by
  have dropped : ∀ c ∈ ending.reverse, (c == '\r' || c == '\n') = true := by
    intro c inside
    rw [List.mem_reverse] at inside
    rcases ends with ends | rfl
    · rcases ends.eq_of_mem inside with rfl | rfl <;> rfl
    · cases inside
  have kept : body.reverse.dropWhile (fun c => c == '\r' || c == '\n') = body.reverse := by
    cases back : body.reverse with
    | nil => rfl
    | cons c front =>
      have inside : c ∈ body := List.mem_reverse.mp (back ▸ List.mem_cons_self)
      exact List.dropWhile_cons_of_neg (by simp [bare.ne inside])
  rw [dropEndWhile, List.reverse_append, List.dropWhile_append_of_pos dropped, kept, List.reverse_reverse]

theorem takeWhile_parts {body ending rest : List Char} (bare : IsBare body)
    (ends : IsLineEnd ending ∨ ending = [] ∧ rest = []) :
    (body ++ (ending ++ rest)).takeWhile (fun c => c ≠ '\r' && c ≠ '\n') = body := by
  have kept : ∀ c ∈ body, (c ≠ '\r' && c ≠ '\n') = true := fun c inside => by simp [bare.ne inside]
  have dropped : (ending ++ rest).takeWhile (fun c => c ≠ '\r' && c ≠ '\n') = [] := by
    rcases ends with (rfl | rfl | rfl) | ⟨rfl, rfl⟩ <;> rfl
  rw [List.takeWhile_append_of_pos kept, dropped, List.append_nil]

/-- A line without its end is the text from the start of the line up to a line end. -/
theorem LinesOf.dropEndWhile_eq (h : LinesOf cs lines) {i : Nat} {line : List Char} (here : lines[i]? = some line) :
    dropEndWhile (fun c => c == '\r' || c == '\n') line =
      (cs.drop (startOf lines i)).takeWhile (fun c => c ≠ '\r' && c ≠ '\n') := by
  obtain ⟨body, ending, rest, text, rfl, bare, ends⟩ := h.exists_parts here
  rw [text, dropEndWhile_parts bare (ends.imp_right And.left), takeWhile_parts bare]
  exact ends.imp_right fun last => ⟨last.1, last.2.1⟩

end SpellLint.Source
