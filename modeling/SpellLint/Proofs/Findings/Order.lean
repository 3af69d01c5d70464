import Mathlib.Data.List.Sort
import Mathlib.Data.String.Basic
import Mathlib.Order.Compare
import SpellLint.Diagnostic

/-! # The order of findings

Spans ascend by start, then by end, and this order is total: findings are a map by span. What a reader gets of them
is decided by which words are found at which span and by nothing else, in particular not by the order in which they
were entered.

* `mem_ordered`: the listed findings are the spans with words, each with all its words.
* `ordered_ascending`, `words_ascending`: the spans ascend strictly, and so do the words of each.
* `ordered_congr`: findings with the same words at the same spans are listed alike.
-/

set_option autoImplicit false

namespace SpellLint

/-! ## The order of spans -/

namespace Span

/-- Starts earlier, or starts at the same place and ends earlier. -/
def Precedes (a b : Span) : Prop := a.start < b.start ∨ a.start = b.start ∧ a.stop < b.stop

instance : Std.TransCmp Span.order :=
  inferInstanceAs (Std.TransCmp (compareLex (compareOn Span.start) (compareOn Span.stop)))

instance : Std.LawfulEqCmp Span.order where
  eq_of_compare {a b} h := by
    obtain ⟨a₁, a₂⟩ := a
    obtain ⟨b₁, b₂⟩ := b
    have both := Ordering.then_eq_eq.mp h
    have hstart : a₁ = b₁ := Std.LawfulEqOrd.eq_of_compare both.1
    have hstop : a₂ = b₂ := Std.LawfulEqOrd.eq_of_compare both.2
    rw [hstart, hstop]

theorem order_eq_lt {a b : Span} : order a b = .lt ↔ a.Precedes b := by
  unfold order Precedes
  rw [Ordering.then_eq_lt, Std.compare_eq_lt, Std.compare_eq_lt, Std.compare_eq_iff_eq]

theorem Precedes.asymm {a b : Span} (h : a.Precedes b) : ¬ b.Precedes a := by
  unfold Precedes at *
  omega

end Span

/-! ## Sets of words -/

theorem mem_foldl_insert (set : Std.TreeSet String) (words : List String) (word : String) :
    word ∈ words.foldl (·.insert ·) set ↔ word ∈ set ∨ word ∈ words := by
  induction words generalizing set with
  | nil => simp
  | cons first rest ih =>
    rw [List.foldl_cons, ih, Std.TreeSet.mem_insert, List.mem_cons, Std.LawfulEqCmp.compare_eq_iff_eq]
    grind

theorem words_ascending (set : Std.TreeSet String) : set.toList.Pairwise (· < ·) := by
  have ordered := Std.TreeSet.ordered_toList (t := set)
  exact ordered.imp compare_lt_iff_lt.mp

theorem toList_congr {set set' : Std.TreeSet String} (h : ∀ word, word ∈ set ↔ word ∈ set') :
    set.toList = set'.toList := by
  apply (words_ascending set).eq_of_mem_iff (words_ascending set')
  intro word
  rw [Std.TreeSet.mem_toList, Std.TreeSet.mem_toList, h word]

/-- Ascending words are the list of the set of them. -/
theorem toList_foldl_insert {words : List String} (h : words.Pairwise (· < ·)) :
    (words.foldl (·.insert ·) (∅ : Std.TreeSet String)).toList = words := by
  apply (words_ascending _).eq_of_mem_iff h
  intro word
  rw [Std.TreeSet.mem_toList, mem_foldl_insert]
  simp

namespace Findings

/-! ## Words at a span -/

/-- The words found at a span; none if there are none. -/
def wordsAt (f : Findings) (span : Span) : Std.TreeSet String := f.getD span ∅

theorem mem_entries (f : Findings) (span : Span) (words : List String) :
    (span, words) ∈ f.entries ↔ ∃ set, f[span]? = some set ∧ set.toList = words := by
  unfold entries
  rw [List.mem_map]
  constructor
  · rintro ⟨⟨key, set⟩, member, same⟩
    obtain ⟨rfl, rfl⟩ := Prod.mk.inj same
    exact ⟨set, Std.TreeMap.mem_toList_iff_getElem?_eq_some.mp member, rfl⟩
  · rintro ⟨set, found, rfl⟩
    exact ⟨(span, set), Std.TreeMap.mem_toList_iff_getElem?_eq_some.mpr found, rfl⟩

theorem mem_ordered (f : Findings) (span : Span) (words : List String) :
    (span, words) ∈ f.ordered ↔ words ≠ [] ∧ (f.wordsAt span).toList = words := by
  unfold ordered wordsAt
  rw [List.mem_filter, mem_entries, Std.TreeMap.getD_eq_getD_getElem?, decide_eq_true_eq]
  cases f[span]? with
  | none =>
    have blank : (∅ : Std.TreeSet String).toList = [] := rfl
    simp only [reduceCtorEq, false_and, exists_false, Option.getD_none, blank]
    grind
  | some set =>
    simp only [Option.some.injEq, exists_eq_left', Option.getD_some]
    exact and_comm

theorem ordered_ascending (f : Findings) : f.ordered.Pairwise fun a b => a.1.Precedes b.1 := by
  have keys : f.toList.Pairwise fun a b => Span.order a.1 b.1 = .lt := Std.TreeMap.ordered_keys_toList
  have entries : f.entries.Pairwise fun a b => a.1.Precedes b.1 := by
    unfold entries
    rw [List.pairwise_map]
    exact keys.imp Span.order_eq_lt.mp
  exact entries.filter _

/-- A list of findings in which the spans ascend strictly is determined by its members. -/
theorem eq_of_ascending {xs ys : List (Span × List String)} (hx : xs.Pairwise fun a b => a.1.Precedes b.1)
    (hy : ys.Pairwise fun a b => a.1.Precedes b.1) (h : ∀ finding, finding ∈ xs ↔ finding ∈ ys) : xs = ys := by
  have nodup : ∀ {zs : List (Span × List String)}, (zs.Pairwise fun a b => a.1.Precedes b.1) → zs.Nodup := by
    intro zs hz
    apply hz.imp
    rintro a b before rfl
    exact before.asymm before
  have perm : xs.Perm ys := (List.perm_ext_iff_of_nodup (nodup hx) (nodup hy)).mpr h
  exact perm.eq_of_pairwise (fun _ _ _ _ ab ba => absurd ba ab.asymm) hx hy

/-- Findings with the same words at the same spans are listed alike. -/
theorem ordered_congr {f g : Findings} (h : ∀ span word, word ∈ f.wordsAt span ↔ word ∈ g.wordsAt span) :
    f.ordered = g.ordered := by
  apply eq_of_ascending f.ordered_ascending g.ordered_ascending
  rintro ⟨span, words⟩
  rw [mem_ordered, mem_ordered, toList_congr (h span)]

end Findings

end SpellLint
