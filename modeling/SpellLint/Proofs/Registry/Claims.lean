import Mathlib.Data.List.Sort
import Mathlib.Order.Compare
import SpellLint.Proofs.Distinct
import SpellLint.Proofs.Registry.Uniqueness

/-! # Who claims an extension

The table of extensions is written claim by claim, and a later claim overwrites an earlier one. So what stands in it for
an extension is the last thing registered that claims it in any case (`Registry.claimant_eq_some_iff`), and its keys are
the claimed extensions. A registration takes over what it claims and leaves everything else as it was
(`Registry.claimant_register`).
-/

set_option autoImplicit false

namespace SpellLint

open SpellLint.Text

namespace Registry

variable {α : Type} {supports : α → List String}

/-- Whether something claims an extension, in whatever case. -/
def Claims (supports : α → List String) (a : α) (extension : String) : Prop :=
  ∃ e ∈ supports a, lower e = lower extension

instance (a : α) (extension : String) : Decidable (Claims supports a extension) :=
  inferInstanceAs (Decidable (∃ e ∈ supports a, lower e = lower extension))

theorem contains_map_lower_iff {a : α} {extension : String} :
    ((supports a).map lower).contains (lower extension) = true ↔ Claims supports a extension := by
  rw [List.contains_iff_mem, List.mem_map]
  rfl

/-! ## The table -/

/-- The claims of one thing overwrite what stands in the table for them, and nothing else. -/
theorem getElem?_foldl_insert (table : Std.TreeMap String α) (a : α) (extensions : List String) (x : String) :
    (extensions.foldl (fun table e => table.insert (lower e) a) table)[x]? =
      if x ∈ extensions.map lower then some a else table[x]? := by
  induction extensions generalizing table with
  | nil => rfl
  | cons e extensions ih =>
    rw [List.foldl_cons, ih, Std.TreeMap.getElem?_insert]
    simp only [List.map_cons, List.mem_cons, Std.LawfulEqCmp.compare_eq_iff_eq, eq_comm (a := x)]
    by_cases later : x ∈ extensions.map lower
    · simp only [later, or_true, if_true]
    · simp only [later, or_false, if_false]

/-- The claims of several things in turn. -/
theorem getElem?_foldl_claims (table : Std.TreeMap String α) (things : List α) (x : String) :
    (things.foldl (fun table a => (supports a).foldl (fun table e => table.insert (lower e) a) table) table)[x]? =
      (things.reverse.find? fun a => ((supports a).map lower).contains x).or table[x]? := by
  induction things generalizing table with
  | nil => rfl
  | cons a things ih =>
    rw [List.foldl_cons, ih, getElem?_foldl_insert, List.reverse_cons, List.find?_append, Option.or_assoc,
      List.find?_singleton]
    simp only [List.contains_iff_mem]
    split <;> rfl

theorem getElem?_index (r : Registry α) (x : String) :
    (r.index supports)[x]? = r.toList.reverse.find? fun a => ((supports a).map lower).contains x := by
  rw [index, getElem?_foldl_claims, Std.TreeMap.getElem?_emptyc, Option.or_none]

/-- What claims an extension is looked up in the table. -/
theorem getElem?_index_lower (r : Registry α) (extension : String) :
    (r.index supports)[lower extension]? = r.claimant supports extension := getElem?_index r _

/-! ## The last claim -/

/-- Of all that claims an extension the last one registered counts. -/
theorem claimant_eq_some_iff {r : Registry α} {extension : String} {a : α} :
    r.claimant supports extension = some a ↔
      ∃ before after, r.toList = before ++ a :: after ∧ Claims supports a extension ∧
        ∀ b ∈ after, ¬ Claims supports b extension := by
  unfold claimant
  rw [List.find?_eq_some_iff_append, contains_map_lower_iff]
  simp only [Bool.not_eq_true', ← Bool.not_eq_true, contains_map_lower_iff]
  constructor
  · rintro ⟨claims, after, before, cut, unclaimed⟩
    refine ⟨before.reverse, after.reverse, ?_, claims, fun b member => unclaimed b (List.mem_reverse.mp member)⟩
    rw [← List.reverse_reverse r.toList, cut, List.reverse_append, List.reverse_cons, List.append_assoc,
      List.singleton_append]
  · rintro ⟨before, after, cut, claims, unclaimed⟩
    refine ⟨claims, after.reverse, before.reverse, ?_, fun b member => unclaimed b (List.mem_reverse.mp member)⟩
    rw [cut, List.reverse_append, List.reverse_cons, List.append_assoc, List.singleton_append]

theorem claimant_eq_none_iff {r : Registry α} {extension : String} :
    r.claimant supports extension = none ↔ ∀ a ∈ r.toList, ¬ Claims supports a extension := by
  unfold claimant
  rw [List.find?_eq_none]
  simp only [List.mem_reverse, contains_map_lower_iff]

/-! ## All claimed extensions -/

theorem mem_extensions {r : Registry α} {x : String} :
    x ∈ r.extensions supports ↔ ∃ a ∈ r.toList, ∃ e ∈ supports a, lower e = x := by
  change x ∈ (List.foldl addNew [] _).mergeSort (· ≤ ·) ↔ _
  rw [List.mem_mergeSort, mem_foldl_addNew, or_iff_right List.not_mem_nil, List.mem_flatMap]
  simp only [List.mem_map]

theorem extensions_ascending (r : Registry α) : (r.extensions supports).Pairwise (· < ·) := by
  have distinct : ((r.toList.flatMap fun a => (supports a).map lower).foldl addNew []).Nodup :=
    nodup_foldl_addNew List.nodup_nil
  exact pairwise_mergeSort_key id (by rwa [List.map_id])

/-- The claimed extensions are the keys of the table. -/
theorem keys_index (r : Registry α) : (r.index supports).keys = r.extensions supports := by
  have ascending : (r.index supports).keys.Pairwise (· < ·) :=
    (Std.TreeMap.ordered_keys (t := r.index supports)).imp compare_lt_iff_lt.mp
  apply ascending.eq_of_mem_iff (extensions_ascending r)
  intro x
  rw [Std.TreeMap.mem_keys, Std.TreeMap.mem_iff_isSome_getElem?, getElem?_index, List.find?_isSome, mem_extensions]
  simp only [List.mem_reverse, List.contains_iff_mem, List.mem_map]

/-! ## One more registration -/

theorem register_of_hasInstance {r : Registry α} {lineage : Lineage} (a : α)
    (present : r.hasInstance lineage.kind = true) : r.register lineage a = r := if_pos present

/-- A registration that is not turned away takes over the extensions that it claims. -/
theorem claimant_register (r : Registry α) (lineage : Lineage) (a : α) (extension : String) :
    (r.register lineage a).claimant supports extension =
      if r.hasInstance lineage.kind = false ∧ Claims supports a extension then some a
      else r.claimant supports extension := by
  unfold register
  split
  · next present =>
    rw [if_neg]
    rintro ⟨absent, -⟩
    rw [present] at absent
    cases absent
  · next absent =>
    have listed : (⟨r.entries ++ [(lineage, a)]⟩ : Registry α).toList = r.toList ++ [a] := List.map_append
    rw [Bool.not_eq_true] at absent
    unfold claimant
    rw [listed, List.reverse_concat, List.find?_cons]
    split
    · next claims => rw [if_pos ⟨absent, contains_map_lower_iff.mp claims⟩]
    · next unclaimed =>
      rw [if_neg]
      rintro ⟨-, claims⟩
      rw [contains_map_lower_iff.mpr claims] at unclaimed
      cases unclaimed

end Registry

namespace Plugins

variable (ancestors : String → List String)

/-- After any calls an extension belongs to the last registered processor that claims it in any case, and to none if no
processor does; the extensions that are listed are all that are claimed, in lower case, and ascend strictly. A processor
that is turned away changes nothing, and one that is not takes over what it claims. -/
theorem last_claim_counts (calls : List Registration) :
    (∀ extension p, (ofCalls ancestors calls).processors.claimant (·.supports) extension = some p ↔
      ∃ before after, (ofCalls ancestors calls).processors.toList = before ++ p :: after ∧
        Registry.Claims (·.supports) p extension ∧ ∀ q ∈ after, ¬ Registry.Claims (·.supports) q extension) ∧
    (∀ extension, (ofCalls ancestors calls).processors.claimant (·.supports) extension = none ↔
      ∀ p ∈ (ofCalls ancestors calls).processors.toList, ¬ Registry.Claims (·.supports) p extension) ∧
    (∀ extension, ((ofCalls ancestors calls).processors.index (·.supports))[lower extension]? =
      (ofCalls ancestors calls).processors.claimant (·.supports) extension) ∧
    ((ofCalls ancestors calls).processors.extensions (·.supports)).Pairwise (· < ·) ∧
    (∀ x, x ∈ (ofCalls ancestors calls).processors.extensions (·.supports) ↔
      ∃ p ∈ (ofCalls ancestors calls).processors.toList, ∃ e ∈ p.supports, lower e = x) ∧
    ((ofCalls ancestors calls).processors.index (·.supports)).keys =
      (ofCalls ancestors calls).processors.extensions (·.supports) ∧
    (∀ kind p, (ofCalls ancestors calls).processors.hasInstance kind = true →
      ofCalls ancestors (calls ++ [.processor kind p]) = ofCalls ancestors calls) ∧
    ∀ kind p extension, (ofCalls ancestors (calls ++ [.processor kind p])).processors.claimant (·.supports) extension =
      if (ofCalls ancestors calls).processors.hasInstance kind = false ∧ Registry.Claims (·.supports) p extension
      then some p else (ofCalls ancestors calls).processors.claimant (·.supports) extension := by
  refine ⟨fun _ _ => Registry.claimant_eq_some_iff, fun _ => Registry.claimant_eq_none_iff,
    Registry.getElem?_index_lower _, Registry.extensions_ascending _, fun _ => Registry.mem_extensions,
    Registry.keys_index _, ?_, ?_⟩
  · intro kind p present
    rw [ofCalls_concat, after, Registry.register_of_hasInstance p present]
  · intro kind p extension
    rw [ofCalls_concat]
    exact Registry.claimant_register _ (lineageIn ancestors kind) p extension

end Plugins

end SpellLint
