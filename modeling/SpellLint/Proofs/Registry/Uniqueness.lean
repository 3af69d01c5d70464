import Mathlib.Data.List.Induction
import SpellLint.Scan

/-! # One instance of each class

A registry never holds two instances of a class, and an instance that it holds is the first of its class that was
offered since it was last cleared. An instance of a base class is turned away once an instance of a derived class is
there; so the registry holds the first instance of every class if and only if no class is first offered behind one
that is derived from it.
-/

set_option autoImplicit false

namespace SpellLint

/-- The lineage of a class, if the classes that each class is derived from are given. -/
def lineageIn (ancestors : String → List String) (kind : String) : Lineage := ⟨kind, ancestors kind⟩

theorem isA_lineageIn_iff (ancestors : String → List String) (derived kind : String) :
    (lineageIn ancestors derived).isA kind = true ↔ derived = kind ∨ kind ∈ ancestors derived := by
  unfold Lineage.isA
  rw [Bool.or_eq_true, decide_eq_true_iff, List.contains_iff_mem]
  rfl

namespace Registry

variable {α : Type}

/-! ## What is registered first -/

/-- The first of every class among instances with their classes. -/
def firstOfEach : List (String × α) → List (String × α)
  | [] => []
  | e :: offers => e :: (firstOfEach offers).filter (·.1 ≠ e.1)

theorem firstOfEach_concat (offers : List (String × α)) (e : String × α) :
    firstOfEach (offers ++ [e]) =
      if ∃ d ∈ offers, d.1 = e.1 then firstOfEach offers else firstOfEach offers ++ [e] := by
  induction offers with
  | nil => simp [firstOfEach]
  | cons d offers ih =>
    rw [List.cons_append, firstOfEach, ih, firstOfEach]
    by_cases later : ∃ d ∈ offers, d.1 = e.1
    · obtain ⟨c, hc, same⟩ := later
      rw [if_pos ⟨c, hc, same⟩, if_pos ⟨c, List.mem_cons_of_mem d hc, same⟩]
    · by_cases here : d.1 = e.1
      · rw [if_neg later, if_pos ⟨d, List.mem_cons_self, here⟩, List.filter_append]
        simp [here]
      · have nowhere : ¬ ∃ c ∈ d :: offers, c.1 = e.1 := by
          rintro ⟨c, hc, same⟩
          rcases List.mem_cons.mp hc with rfl | hc
          · exact here same
          · exact later ⟨c, hc, same⟩
        rw [if_neg later, if_neg nowhere, List.filter_append, List.cons_append]
        simp [Ne.symm here]

/-- No class has two instances among the first ones. -/
theorem nodup_firstOfEach (offers : List (String × α)) : ((firstOfEach offers).map (·.1)).Nodup := by
  induction offers with
  | nil => exact List.nodup_nil
  | cons e offers ih =>
    rw [firstOfEach, List.map_cons, List.nodup_cons]
    refine ⟨?_, List.Nodup.sublist (List.Sublist.map _ List.filter_sublist) ih⟩
    intro again
    obtain ⟨d, hd, same⟩ := List.mem_map.mp again
    exact of_decide_eq_true (List.mem_filter.mp hd).2 same

/-- Every class has an instance among the first ones. -/
theorem exists_mem_firstOfEach {offers : List (String × α)} {d : String × α} (h : d ∈ offers) :
    ∃ c ∈ firstOfEach offers, c.1 = d.1 := by
  induction offers with
  | nil => cases h
  | cons e offers ih =>
    by_cases same : e.1 = d.1
    · exact ⟨e, List.mem_cons_self, same⟩
    · have later : d ∈ offers := by
        rcases List.mem_cons.mp h with rfl | later
        · exact absurd rfl same
        · exact later
      obtain ⟨c, hc, kind⟩ := ih later
      refine ⟨c, List.mem_cons_of_mem e (List.mem_filter.mpr ⟨hc, ?_⟩), kind⟩
      rw [kind]
      exact decide_eq_true (Ne.symm same)

/-! ## What a registry keeps -/

theorem hasInstance_iff (r : Registry α) (kind : String) :
    r.hasInstance kind = true ↔ ∃ d ∈ r.entries, d.1.isA kind = true := by
  simp [hasInstance]

/-- An instance is turned away exactly if one of its class, or of a class derived from it, is there. -/
theorem register_eq_self_iff (r : Registry α) (lineage : Lineage) (a : α) :
    r.register lineage a = r ↔ ∃ d ∈ r.entries, d.1.isA lineage.kind = true := by
  rw [← hasInstance_iff, register]
  split
  · next present => simp [present]
  · next absent =>
    constructor
    · intro same
      have lengths := congrArg (fun r => r.entries.length) same
      simp at lengths
    · intro present
      exact absurd present absent

section

variable (ancestors : String → List String)

/-- An instance with the lineage of its class. -/
def entryIn (e : String × α) : Lineage × α := (lineageIn ancestors e.1, e.2)

/-- The registry after instances were offered to an empty one. -/
def ofOffers (offers : List (String × α)) : Registry α :=
  offers.foldl (fun r e => r.register (lineageIn ancestors e.1) e.2) .empty

/-- If anything derived from a class has been offered, the class itself was offered before. -/
def BasesFirst (offers : List (String × α)) : Prop :=
  ∀ before e after, offers = before ++ e :: after → (∃ d ∈ before, e.1 ∈ ancestors d.1) → ∃ d ∈ before, d.1 = e.1

theorem basesFirst_concat (offers : List (String × α)) (e : String × α) :
    BasesFirst ancestors (offers ++ [e]) ↔
      BasesFirst ancestors offers ∧ ((∃ d ∈ offers, e.1 ∈ ancestors d.1) → ∃ d ∈ offers, d.1 = e.1) := by
  constructor
  · intro ordered
    constructor
    · intro before c after cut
      exact ordered before c (after ++ [e]) (by rw [cut]; simp)
    · exact ordered offers e [] rfl
  · intro ⟨ordered, last⟩ before c after cut
    rcases List.eq_nil_or_concat after with rfl | ⟨after, f, rfl⟩
    · obtain ⟨rfl, same⟩ := List.append_inj' cut rfl
      obtain rfl := List.cons.inj same |>.1
      exact last
    · have cut : offers ++ [e] = (before ++ c :: after) ++ [f] := by simpa using cut
      obtain ⟨rfl, _⟩ := List.append_inj' cut rfl
      exact ordered before c after rfl

theorem ofOffers_concat (offers : List (String × α)) (e : String × α) :
    (ofOffers ancestors (offers ++ [e])).entries =
      if (ofOffers ancestors offers).hasInstance e.1 then (ofOffers ancestors offers).entries
      else (ofOffers ancestors offers).entries ++ [entryIn ancestors e] := by
  rw [ofOffers, List.foldl_append]
  change (if (ofOffers ancestors offers).hasInstance e.1 then ofOffers ancestors offers
    else ⟨(ofOffers ancestors offers).entries ++ [entryIn ancestors e]⟩ : Registry α).entries = _
  split <;> rfl

theorem mem_entries_ofOffers {offers : List (String × α)} {d : Lineage × α}
    (h : d ∈ (ofOffers ancestors offers).entries) : ∃ e ∈ offers, d = entryIn ancestors e := by
  induction offers using List.reverseRecOn with
  | nil => cases h
  | append_singleton offers e ih =>
    rw [ofOffers_concat] at h
    split at h
    · obtain ⟨c, hc, rfl⟩ := ih h
      exact ⟨c, List.mem_append_left [e] hc, rfl⟩
    · rcases List.mem_append.mp h with h | h
      · obtain ⟨c, hc, rfl⟩ := ih h
        exact ⟨c, List.mem_append_left [e] hc, rfl⟩
      · exact ⟨e, List.mem_append_right offers List.mem_cons_self, List.mem_singleton.mp h⟩

/-- Whatever has been offered, something that is an instance of its class is there. -/
theorem hasInstance_of_offered {offers : List (String × α)} {d : String × α} (h : d ∈ offers) :
    (ofOffers ancestors offers).hasInstance d.1 = true := by
  rw [hasInstance_iff]
  induction offers using List.reverseRecOn with
  | nil => cases h
  | append_singleton offers e ih =>
    rw [ofOffers_concat]
    rcases List.mem_append.mp h with h | h
    · obtain ⟨c, hc, isInstance⟩ := ih h
      refine ⟨c, ?_, isInstance⟩
      split
      · exact hc
      · exact List.mem_append_left _ hc
    · obtain rfl := List.mem_singleton.mp h
      split
      · next present => exact (hasInstance_iff _ _).mp present
      · exact ⟨entryIn ancestors d, List.mem_append_right _ List.mem_cons_self,
          (isA_lineageIn_iff ancestors d.1 d.1).mpr (.inl rfl)⟩

/-- What is kept are first instances of their classes, in the order of the offers. -/
theorem entries_sublist (offers : List (String × α)) :
    (ofOffers ancestors offers).entries.Sublist ((firstOfEach offers).map (entryIn ancestors)) := by
  induction offers using List.reverseRecOn with
  | nil => exact List.Sublist.refl []
  | append_singleton offers e ih =>
    rw [ofOffers_concat, firstOfEach_concat]
    by_cases known : ∃ d ∈ offers, d.1 = e.1
    · obtain ⟨d, hd, same⟩ := known
      have present := hasInstance_of_offered ancestors hd
      rw [same] at present
      rw [if_pos present, if_pos ⟨d, hd, same⟩]
      exact ih
    · rw [if_neg known, List.map_append]
      split
      · exact ih.trans (List.sublist_append_left _ _)
      · exact ih.append (List.Sublist.refl _)

theorem kinds_nodup (offers : List (String × α)) :
    ((ofOffers ancestors offers).entries.map (·.1.kind)).Nodup := by
  have kinds : ((firstOfEach offers).map (entryIn ancestors)).map (·.1.kind) = (firstOfEach offers).map (·.1) := by
    rw [List.map_map]
    rfl
  have kept := (entries_sublist ancestors offers).map (·.1.kind)
  rw [kinds] at kept
  exact (nodup_firstOfEach offers).sublist kept

/-- Exactly if bases come first, the first instance of every class is kept. -/
theorem entries_eq_firsts_iff (offers : List (String × α)) :
    (ofOffers ancestors offers).entries = (firstOfEach offers).map (entryIn ancestors) ↔
      BasesFirst ancestors offers := by
  induction offers using List.reverseRecOn with
  | nil =>
    refine ⟨fun _ before e after cut => ?_, fun _ => rfl⟩
    simp at cut
  | append_singleton offers e ih =>
    rw [ofOffers_concat, firstOfEach_concat, basesFirst_concat, ← ih]
    by_cases known : ∃ d ∈ offers, d.1 = e.1
    · obtain ⟨d, hd, same⟩ := known
      have present := hasInstance_of_offered ancestors hd
      rw [same] at present
      rw [if_pos present, if_pos ⟨d, hd, same⟩]
      exact ⟨fun kept => ⟨kept, fun _ => ⟨d, hd, same⟩⟩, fun kept => kept.1⟩
    · rw [if_neg known, List.map_append]
      constructor
      · intro kept
        split at kept
        · have short := (entries_sublist ancestors offers).length_le
          rw [kept, List.length_append] at short
          exact absurd short (Nat.not_le_of_lt (Nat.lt_succ_self _))
        · next absent =>
          have kept := List.append_cancel_right kept
          refine ⟨kept, fun ⟨d, hd, derived⟩ => absurd ?_ absent⟩
          obtain ⟨c, hc, same⟩ := exists_mem_firstOfEach hd
          rw [hasInstance_iff, kept]
          refine ⟨entryIn ancestors c, List.mem_map_of_mem hc, (isA_lineageIn_iff ancestors c.1 e.1).mpr (.inr ?_)⟩
          rw [same]
          exact derived
      · intro ⟨kept, bases⟩
        have absent : ¬ (ofOffers ancestors offers).hasInstance e.1 = true := by
          rw [hasInstance_iff]
          rintro ⟨c, hc, isInstance⟩
          obtain ⟨d, hd, rfl⟩ := mem_entries_ofOffers ancestors hc
          rcases (isA_lineageIn_iff ancestors d.1 e.1).mp isInstance with same | derived
          · exact known ⟨d, hd, same⟩
          · exact known (bases ⟨d, hd, derived⟩)
        rw [if_neg absent, kept]
        rfl

end

end Registry

/-! ## Both registries -/

/-- What is done with the registries: an instance of a class is offered to one of them, or both are cleared. -/
inductive Registration where
  | processor (kind : String) (p : Processor)
  | check (kind : String) (c : Check)
  | clear

namespace Registration

/-- The processor that is offered, with its class. -/
def processor? : Registration → Option (String × Processor)
  | processor kind p => some (kind, p)
  | _ => none

/-- The check that is offered, with its class. -/
def check? : Registration → Option (String × Check)
  | check kind c => some (kind, c)
  | _ => none

/-- Whether the registries are cleared. -/
def isClear : Registration → Bool
  | clear => true
  | _ => false

/-- What is done after the registries were last cleared. -/
def current (calls : List Registration) : List Registration := (calls.reverse.takeWhile (! ·.isClear)).reverse

/-- The processors that are offered after the last clearing. -/
def processors (calls : List Registration) : List (String × Processor) := (current calls).filterMap processor?

/-- The checks that are offered after the last clearing. -/
def checks (calls : List Registration) : List (String × Check) := (current calls).filterMap check?

theorem current_concat (calls : List Registration) (call : Registration) :
    current (calls ++ [call]) = if call.isClear then [] else current calls ++ [call] := by
  unfold current
  rw [List.reverse_append, List.reverse_singleton, List.singleton_append, List.takeWhile_cons]
  cases call.isClear with
  | true => rfl
  | false => exact List.reverse_cons

end Registration

namespace Plugins

/-- Nothing is registered. -/
def empty : Plugins := ⟨.empty, .empty⟩

section

variable (ancestors : String → List String)

/-- The registries after one more call. -/
def after (plugins : Plugins) : Registration → Plugins
  | .processor kind p => { plugins with processors := plugins.processors.register (lineageIn ancestors kind) p }
  | .check kind c => { plugins with checks := plugins.checks.register (lineageIn ancestors kind) c }
  | .clear => empty

/-- The registries after some calls. -/
def ofCalls (calls : List Registration) : Plugins := calls.foldl (after ancestors) empty

theorem ofCalls_concat (calls : List Registration) (call : Registration) :
    ofCalls ancestors (calls ++ [call]) = (ofCalls ancestors calls).after ancestors call := by
  rw [ofCalls, List.foldl_append]
  rfl

/-- The registries hold what was offered since they were last cleared, each on its own. -/
theorem ofCalls_eq (calls : List Registration) :
    ofCalls ancestors calls =
      ⟨.ofOffers ancestors (Registration.processors calls), .ofOffers ancestors (Registration.checks calls)⟩ := by
  induction calls using List.reverseRecOn with
  | nil => rfl
  | append_singleton calls call ih =>
    rw [ofCalls_concat, ih]
    unfold Registration.processors Registration.checks
    rw [Registration.current_concat]
    cases call with
    | clear => rfl
    | processor kind p =>
      simp only [Registration.isClear, Bool.false_eq_true, if_false, List.filterMap_append, Registry.ofOffers,
        List.foldl_append]
      rfl
    | check kind c =>
      simp only [Registration.isClear, Bool.false_eq_true, if_false, List.filterMap_append, Registry.ofOffers,
        List.foldl_append]
      rfl

/-- The first instance of every class that was offered since the last clearing is registered, and nothing else. -/
def FirstsKept (calls : List Registration) : Prop :=
  (ofCalls ancestors calls).processors.entries =
      (Registry.firstOfEach (Registration.processors calls)).map (Registry.entryIn ancestors) ∧
    (ofCalls ancestors calls).checks.entries =
      (Registry.firstOfEach (Registration.checks calls)).map (Registry.entryIn ancestors)

/-- Only first instances of classes are kept, one of each; all of them are, exactly if no class is offered for the
first time behind one that is derived from it, because any instance of its class that is there turns an instance
away. -/
theorem firsts_kept_iff (calls : List Registration) :
    (FirstsKept ancestors calls ↔
        Registry.BasesFirst ancestors (Registration.processors calls) ∧
          Registry.BasesFirst ancestors (Registration.checks calls)) ∧
      (((ofCalls ancestors calls).processors.entries.map (·.1.kind)).Nodup ∧
        (ofCalls ancestors calls).processors.entries.Sublist
          ((Registry.firstOfEach (Registration.processors calls)).map (Registry.entryIn ancestors))) ∧
      (((ofCalls ancestors calls).checks.entries.map (·.1.kind)).Nodup ∧
        (ofCalls ancestors calls).checks.entries.Sublist
          ((Registry.firstOfEach (Registration.checks calls)).map (Registry.entryIn ancestors))) ∧
      (∀ kind p, ofCalls ancestors (calls ++ [.processor kind p]) = ofCalls ancestors calls ↔
        ∃ d ∈ (ofCalls ancestors calls).processors.entries, d.1.isA kind = true) ∧
      (∀ kind c, ofCalls ancestors (calls ++ [.check kind c]) = ofCalls ancestors calls ↔
        ∃ d ∈ (ofCalls ancestors calls).checks.entries, d.1.isA kind = true) := by
  refine ⟨?_, ?_, ?_, ?_, ?_⟩
  · rw [FirstsKept, ofCalls_eq, Registry.entries_eq_firsts_iff, Registry.entries_eq_firsts_iff]
  · rw [ofCalls_eq]
    exact ⟨Registry.kinds_nodup ancestors _, Registry.entries_sublist ancestors _⟩
  · rw [ofCalls_eq]
    exact ⟨Registry.kinds_nodup ancestors _, Registry.entries_sublist ancestors _⟩
  · intro kind p
    rw [ofCalls_concat]
    have turned := Registry.register_eq_self_iff (ofCalls ancestors calls).processors (lineageIn ancestors kind) p
    refine Iff.trans ?_ turned
    refine ⟨fun same => congrArg Plugins.processors same, fun same => ?_⟩
    rw [after, same]
  · intro kind c
    rw [ofCalls_concat]
    have turned := Registry.register_eq_self_iff (ofCalls ancestors calls).checks (lineageIn ancestors kind) c
    refine Iff.trans ?_ turned
    refine ⟨fun same => congrArg Plugins.checks same, fun same => ?_⟩
    rw [after, same]

/-! ## A derived class in front of its base -/

/-- A class that is derived from another. -/
def derivedAncestors (kind : String) : List String := if kind = "derived" then ["base"] else []

/-- The base class is only registered if it is offered first: which classes are there depends on the order. -/
theorem base_hidden_by_derived :
    let derived := Registration.processor "derived" Source.processor
    let base := Registration.processor "base" Source.processor
    (ofCalls derivedAncestors [derived, base]).processors.entries.map (·.1.kind) = ["derived"] ∧
      (ofCalls derivedAncestors [base, derived]).processors.entries.map (·.1.kind) = ["base", "derived"] ∧
      ¬ FirstsKept derivedAncestors [derived, base] := by
  refine ⟨by decide, by decide, ?_⟩
  intro ⟨kept, _⟩
  have kinds := congrArg (List.map (·.1.kind)) kept
  exact absurd kinds (by decide)

end

end Plugins

end SpellLint
