import Mathlib.Data.Fintype.EquivFin
import SpellLint.Proofs.Source.Visibility

/-! # The list of exported names

What a module leaves in its list of exported names when it runs, against the names that its statements tell. Nothing is
known of the value of an expression that is no display and no literal, so a body has many runs. The statements tell the
names of every run exactly if the last assignment of the list and everything added behind it is literal
(`exports_exact_iff`): what is not literal is skipped, and the names told before it are kept.
-/

set_option autoImplicit false

namespace SpellLint.Source

/-! ## Runs -/

inductive Shape where
  | list
  | tuple
  deriving DecidableEq

/-- What the list of exported names holds while a module runs. Items that are no texts are not told apart. -/
inductive Content where
  | sequence (shape : Shape) (items : List (Option String))
  | other

/-- What an element of a display adds to its items: any number of them if it is starred. -/
def Yields : Tree → List (Option String) → Prop
  | .node (.usage _) _ _, items => items = []
  | .node (.starred _) _ _, _ => True
  | .node (.literal (.text value)) _ _, items => items = [some value]
  | .node (.literal _) _ _, items => items = [none]
  | _, items => ∃ item, items = [item]

def Display (shape : Shape) (parts : List Tree) (content : Content) : Prop :=
  ∃ pieces, List.Forall₂ Yields parts pieces ∧ content = .sequence shape pieces.flatten

/-- What an expression can evaluate to. -/
def Evaluates : Tree → Content → Prop
  | .node (.list _) _ parts, content => Display .list parts content
  | .node (.tuple _) _ parts, content => Display .tuple parts content
  | .node (.literal _) _ _, content => content = .other
  | _, _ => True

/-- What can become of a content that is combined with another one. Sequences can only be added, and to a tuple only a
tuple; what other values do is up to them. -/
def Combined (operator : String) : Content → Content → Content → Prop
  | .sequence shape items, .sequence shape' items', after =>
    operator = "+=" ∧ (shape = .tuple → shape' = .tuple) ∧ after = .sequence shape (items ++ items')
  | _, _, _ => True

/-- What a statement does to the list of exported names. -/
inductive Effect where
  | none
  | replaces (value : Tree)
  | combines (operator : String) (value : Tree)

/-- The effect of an assignment, told by its targets and its value. -/
def effectOn (effect : Tree → Effect) : Option (List Tree × Option Tree) → Effect
  | some (targets, some value) => if isAmong exportList targets then effect value else .none
  | _ => .none

def effectOf : Tree → Effect
  | .node (.augmentedAssign operator) e parts =>
    effectOn (.combines operator) (augmented (.node (.augmentedAssign operator) e parts))
  | t => effectOn .replaces (assigned t)

namespace Effect

/-- The expression whose value is assigned. -/
def value? : Effect → Option Tree
  | none => .none
  | replaces value => some value
  | combines _ value => some value

/-- What can stand in the list behind a statement. A list that does not exist cannot be combined with anything. -/
def Leads : Effect → Option Content → Option Content → Prop
  | none, before, after => after = before
  | replaces value, _, after => ∃ content, Evaluates value content ∧ after = some content
  | combines operator value, some old, after =>
    ∃ content new, Evaluates value content ∧ Combined operator old content new ∧ after = some new
  | combines _ _, .none, _ => False

end Effect

/-- The runs of a body without an error, as far as the list of exported names is concerned. -/
inductive Leaves : List Tree → Option Content → Prop
  | start : Leaves [] none
  | step {body : List Tree} {t : Tree} {before after : Option Content} (run : Leaves body before)
      (leads : (effectOf t).Leads before after) : Leaves (body ++ [t]) after

/-- A run leaves a list or a tuple of texts. -/
def LeavesNames (body : List Tree) (names : List String) : Prop :=
  ∃ shape, Leaves body (some (.sequence shape (names.map some)))

/-! ## Literal lists -/

/-- An element of a display that is a text; the usage of the display is none of its elements. -/
def isLiteralItem : Tree → Bool
  | .node (.usage _) _ _ => true
  | .node (.literal (.text _)) _ _ => true
  | _ => false

/-- A list or tuple of texts that are all written out. -/
def isLiteral : Tree → Bool
  | .node (.list _) _ parts => parts.all isLiteralItem
  | .node (.tuple _) _ parts => parts.all isLiteralItem
  | _ => false

/-- Whether the list is literal behind a statement. -/
def Effect.literalAfter (before : Bool) : Effect → Bool
  | none => before
  | replaces value => isLiteral value
  | combines _ value => before && isLiteral value

/-- Whether the list is literal in the end: its last assignment and everything added behind it. -/
def isLiteralList (body : List Tree) : Bool := body.foldl (fun before t => (effectOf t).literalAfter before) false

theorem isLiteralList_concat (body : List Tree) (t : Tree) :
    isLiteralList (body ++ [t]) = (effectOf t).literalAfter (isLiteralList body) := by
  rw [isLiteralList, List.foldl_concat]
  rfl

theorem items_of_literal {parts : List Tree} {pieces : List (List (Option String))}
    (yields : List.Forall₂ Yields parts pieces) (literal : parts.all isLiteralItem = true) :
    pieces.flatten = (parts.filterMap (·.text?)).map some := by
  induction yields with
  | nil => rfl
  | @cons t items parts pieces first _ ih =>
    rw [List.all_cons, Bool.and_eq_true] at literal
    have rest := ih literal.2
    have own : items ++ (parts.filterMap (·.text?)).map some = ((t :: parts).filterMap (·.text?)).map some := by
      have item := literal.1
      unfold isLiteralItem at item
      split at item
      · obtain rfl : items = [] := first
        rfl
      · obtain rfl : items = [_] := first
        rfl
      · cases item
    rw [List.flatten_cons, rest, own]

theorem content_of_literal {value : Tree} {content : Content} (literal : isLiteral value = true)
    (evaluates : Evaluates value content) :
    ∃ shape names, literalNames value = some names ∧ content = .sequence shape (names.map some) := by
  unfold isLiteral at literal
  split at literal
  · obtain ⟨pieces, yields, rfl⟩ := evaluates
    exact ⟨_, _, rfl, by rw [items_of_literal yields literal]⟩
  · obtain ⟨pieces, yields, rfl⟩ := evaluates
    exact ⟨_, _, rfl, by rw [items_of_literal yields literal]⟩
  · cases literal

/-! ## The names that statements tell -/

/-- The names that are told behind a statement. -/
def Effect.told (names : Option (List String)) : Effect → Option (List String)
  | none => names
  | replaces value => (literalNames value).or names
  | combines _ value => ((literalNames value).map (names.getD [] ++ ·)).or names

theorem Effect.told_effectOn (names : Option (List String)) (effect : Tree → Effect) (targets : List Tree)
    (value : Tree) :
    (effectOn effect (some (targets, some value))).told names =
      if isAmong exportList targets then (effect value).told names else names := by
  unfold effectOn
  dsimp only
  split <;> rfl

theorem effectOf_of_augmented {t : Tree} {assignment : List Tree × Option Tree} (h : augmented t = some assignment) :
    ∃ operator, effectOf t = effectOn (.combines operator) (some assignment) := by
  have combining := h
  unfold augmented at combining
  split at combining
  · next operator e parts => exact ⟨operator, by rw [effectOf, h]⟩
  · cases combining

theorem effectOf_of_not_augmented {t : Tree} (h : augmented t = none) :
    effectOf t = effectOn .replaces (assigned t) := by
  unfold effectOf
  split
  · cases h
  · rfl

theorem exportsAfter_eq (names : Option (List String)) (t : Tree) : exportsAfter names t = (effectOf t).told names := by
  unfold exportsAfter
  split
  · next targets value assignment =>
    obtain ⟨operator, effect⟩ := effectOf_of_augmented assignment
    rw [effect]
    cases value with
    | none => exact ite_self _
    | some value =>
      rw [Effect.told_effectOn, Option.bind_some, Effect.told]
      cases literalNames value <;> rfl
  · next other =>
    rw [effectOf_of_not_augmented other]
    split
    · next targets value assignment =>
      rw [assignment]
      cases value with
      | none => exact ite_self _
      | some value =>
        rw [Effect.told_effectOn, Option.bind_some, Effect.told]
        cases literalNames value <;> rfl
    · next unrelated =>
      rw [unrelated]
      rfl

theorem exportedNames_concat (body : List Tree) (t : Tree) :
    exportedNames (body ++ [t]) = (effectOf t).told (exportedNames body) := by
  rw [exportedNames, List.foldl_concat, exportsAfter_eq]
  rfl

/-! ## Literal lists are told as they are -/

/-- What a run leaves behind literal statements is what they tell, in the same order. -/
theorem told_of_literal {body : List Tree} {content : Option Content} (run : Leaves body content)
    (literal : isLiteralList body = true) :
    ∃ shape names, exportedNames body = some names ∧ content = some (.sequence shape (names.map some)) := by
  induction run with
  | start => cases literal
  | @step body t before after run leads ih =>
    rw [isLiteralList_concat] at literal
    rw [exportedNames_concat]
    cases effect : effectOf t with
    | none =>
      rw [effect] at literal leads
      obtain rfl : after = before := leads
      exact ih literal
    | replaces value =>
      rw [effect] at literal leads
      obtain ⟨content, evaluates, rfl⟩ := leads
      obtain ⟨shape, names, told, rfl⟩ := content_of_literal literal evaluates
      exact ⟨shape, names, by rw [Effect.told, told]; rfl, rfl⟩
    | combines operator value =>
      rw [effect] at literal leads
      obtain ⟨before_literal, value_literal⟩ := (Bool.and_eq_true _ _).mp literal
      obtain ⟨shape, names, told, rfl⟩ := ih before_literal
      obtain ⟨content, new, evaluates, combined, rfl⟩ := leads
      obtain ⟨shape', found, told', rfl⟩ := content_of_literal value_literal evaluates
      obtain ⟨-, -, rfl⟩ := combined
      refine ⟨shape, names ++ found, ?_, ?_⟩
      · rw [Effect.told, told', told]
        rfl
      · rw [List.map_append]

/-- If all values are literal, so is the list that is left. -/
theorem isLiteralList_of_values {body : List Tree} {content : Option Content} (run : Leaves body content)
    (exists_list : content ≠ none)
    (literal : ∀ t ∈ body, ∀ value, (effectOf t).value? = some value → isLiteral value = true) :
    isLiteralList body = true := by
  induction run with
  | start => exact absurd rfl exists_list
  | @step body t before after run leads ih =>
    have earlier : ∀ t ∈ body, ∀ value, (effectOf t).value? = some value → isLiteral value = true :=
      fun t member => literal t (List.mem_append_left _ member)
    have last := literal t List.mem_concat_self
    rw [isLiteralList_concat]
    cases effect : effectOf t with
    | none =>
      rw [effect] at leads
      obtain rfl : after = before := leads
      exact ih exists_list earlier
    | replaces value =>
      rw [effect] at last
      exact last value rfl
    | combines operator value =>
      rw [effect] at leads last
      cases before with
      | none => exact leads.elim
      | some old => exact (Bool.and_eq_true _ _).mpr ⟨ih (Option.some_ne_none old) earlier, last value rfl⟩

/-- Nothing is told exactly if no value is a display. -/
theorem exportedNames_eq_none_iff (body : List Tree) :
    exportedNames body = none ↔ ∀ t ∈ body, ∀ value, (effectOf t).value? = some value → literalNames value = none := by
  induction body using List.reverseRecOn with
  | nil => simp [exportedNames]
  | append_singleton body t ih =>
    rw [exportedNames_concat, List.forall_mem_append, List.forall_mem_singleton, ← ih]
    cases effectOf t with
    | none => simp [Effect.told, Effect.value?]
    | replaces value => simp [Effect.told, Effect.value?, and_comm]
    | combines operator value => simp [Effect.told, Effect.value?, and_comm]

/-! ## What is not literal may leave any name -/

/-- An element that is not written out as a text may give any text. -/
theorem yields_any {t : Tree} {items : List (Option String)} {names : List String} (yields : Yields t items)
    (texts : items = names.map some) (notLiteral : isLiteralItem t = false) (name : String) : Yields t [some name] := by
  subst texts
  unfold Yields at *
  split at yields
  · cases notLiteral
  · trivial
  · cases notLiteral
  · cases names with
    | nil => cases yields
    | cons first names => cases yields
  · exact ⟨_, rfl⟩

theorem exists_pieces_with {parts : List Tree} {pieces : List (List (Option String))} {names : List String}
    (yields : List.Forall₂ Yields parts pieces) (texts : pieces.flatten = names.map some)
    (notLiteral : parts.all isLiteralItem = false) (name : String) :
    ∃ pieces', List.Forall₂ Yields parts pieces' ∧
      ∃ names' : List String, pieces'.flatten = names'.map some ∧ name ∈ names' := by
  induction yields generalizing names with
  | nil => cases notLiteral
  | @cons t items parts pieces first rest ih =>
    rw [List.flatten_cons, List.append_eq_map_iff] at texts
    obtain ⟨own, others, -, itemsTexts, othersTexts⟩ := texts
    cases item : isLiteralItem t with
    | true =>
      rw [List.all_cons, item, Bool.true_and] at notLiteral
      obtain ⟨pieces', yields', names', texts', member⟩ := ih othersTexts.symm notLiteral
      refine ⟨items :: pieces', .cons first yields', own ++ names', ?_, List.mem_append_right own member⟩
      rw [List.flatten_cons, texts', ← itemsTexts, List.map_append]
    | false =>
      have any := yields_any first itemsTexts.symm item name
      refine ⟨[some name] :: pieces, .cons any rest, name :: others, ?_, List.mem_cons_self⟩
      rw [List.flatten_cons, ← othersTexts]
      rfl

theorem exists_display_with {kind shape : Shape} {parts : List Tree} {names : List String}
    (display : Display kind parts (.sequence shape (names.map some))) (notLiteral : parts.all isLiteralItem = false)
    (name : String) :
    ∃ names' : List String, Display kind parts (.sequence shape (names'.map some)) ∧ name ∈ names' := by
  obtain ⟨pieces, yields, same⟩ := display
  obtain ⟨rfl, texts⟩ := Content.sequence.inj same
  obtain ⟨pieces', yields', names', texts', member⟩ := exists_pieces_with yields texts.symm notLiteral name
  exact ⟨names', ⟨pieces', yields', by rw [texts']⟩, member⟩

/-- An expression that is not literal may evaluate to a sequence with any name in it. -/
theorem exists_value_with {value : Tree} {shape : Shape} {names : List String}
    (evaluates : Evaluates value (.sequence shape (names.map some))) (notLiteral : isLiteral value = false)
    (name : String) :
    ∃ names' : List String, Evaluates value (.sequence shape (names'.map some)) ∧ name ∈ names' := by
  unfold Evaluates isLiteral at *
  split at evaluates
  · exact exists_display_with evaluates notLiteral name
  · exact exists_display_with evaluates notLiteral name
  · cases evaluates
  · exact ⟨[name], trivial, List.mem_singleton_self name⟩

/-- A combining statement may leave any name that may stand in the list before, and any name at all if its value is not
literal. -/
theorem exists_combined_with {body : List Tree} {operator : String} {value : Tree} {old content : Content}
    {shape : Shape} {names : List String} (run : Leaves body (some old)) (evaluates : Evaluates value content)
    (combined : Combined operator old content (.sequence shape (names.map some))) {name : String}
    (free : (∀ (s : Shape) (own : List String), old = .sequence s (own.map some) →
        ∃ own' : List String, Leaves body (some (.sequence s (own'.map some))) ∧ name ∈ own') ∨
      isLiteral value = false) :
    ∃ (names' : List String) (before : Option Content), Leaves body before ∧
      (Effect.combines operator value).Leads before (some (.sequence shape (names'.map some))) ∧ name ∈ names' := by
  have other : ∀ {content}, Evaluates value content → Combined operator old content (.sequence shape [some name]) →
      ∃ (names' : List String) (before : Option Content), Leaves body before ∧
        (Effect.combines operator value).Leads before (some (.sequence shape (names'.map some))) ∧ name ∈ names' :=
    fun evaluates combined =>
      ⟨[name], some old, run, ⟨_, _, evaluates, combined, rfl⟩, List.mem_singleton_self name⟩
  cases old with
  | other => exact other evaluates trivial
  | sequence s items =>
    cases content with
    | other => exact other evaluates trivial
    | sequence s' items' =>
      obtain ⟨plus, kinds, same⟩ := combined
      obtain ⟨rfl, texts⟩ := Content.sequence.inj same
      obtain ⟨own, added, -, rfl, rfl⟩ := List.map_eq_append_iff.mp texts
      rcases free with front | last
      · obtain ⟨own', run', member⟩ := front shape own rfl
        have combined' : Combined operator (.sequence shape (own'.map some)) (.sequence s' (added.map some))
            (.sequence shape ((own' ++ added).map some)) := ⟨plus, kinds, by rw [List.map_append]⟩
        exact ⟨own' ++ added, _, run', ⟨_, _, evaluates, combined', rfl⟩, List.mem_append_left added member⟩
      · obtain ⟨added', evaluates', member⟩ := exists_value_with evaluates last name
        have combined' : Combined operator (.sequence shape (own.map some)) (.sequence s' (added'.map some))
            (.sequence shape ((own ++ added').map some)) := ⟨plus, kinds, by rw [List.map_append]⟩
        exact ⟨own ++ added', _, run, ⟨_, _, evaluates', combined', rfl⟩, List.mem_append_right own member⟩

/-- A list that is not literal may be left with any name in it. -/
theorem exists_run_with {body : List Tree} {content : Option Content} {shape : Shape} {names : List String}
    (run : Leaves body content) (texts : content = some (.sequence shape (names.map some)))
    (notLiteral : isLiteralList body = false) (name : String) :
    ∃ names' : List String, Leaves body (some (.sequence shape (names'.map some))) ∧ name ∈ names' := by
  induction run generalizing shape names with
  | start => cases texts
  | @step body t before after run leads ih =>
    rw [isLiteralList_concat] at notLiteral
    -- It is enough to find a run of the front, and a last step from where it leads to.
    suffices last : ∃ (names' : List String) (before' : Option Content), Leaves body before' ∧
        (effectOf t).Leads before' (some (.sequence shape (names'.map some))) ∧ name ∈ names' by
      obtain ⟨names', before', run', leads', member⟩ := last
      exact ⟨names', .step run' leads', member⟩
    subst texts
    cases effect : effectOf t with
    | none =>
      rw [effect] at leads notLiteral
      obtain ⟨names', run', member⟩ := ih leads.symm notLiteral
      exact ⟨names', _, run', rfl, member⟩
    | replaces value =>
      rw [effect] at leads notLiteral
      obtain ⟨content, evaluates, same⟩ := leads
      obtain rfl := Option.some.inj same
      obtain ⟨names', evaluates', member⟩ := exists_value_with evaluates notLiteral name
      exact ⟨names', before, run, ⟨_, evaluates', rfl⟩, member⟩
    | combines operator value =>
      rw [effect] at leads notLiteral
      cases before with
      | none => exact leads.elim
      | some old =>
        obtain ⟨content, new, evaluates, combined, same⟩ := leads
        obtain rfl := Option.some.inj same
        apply exists_combined_with run evaluates combined
        refine (Bool.and_eq_false_iff.mp notLiteral).imp_left ?_
        rintro front s own rfl
        exact ih rfl front

/-! ## Which lists are told as they are left -/

/-- The names that the statements tell, if they tell any, are those that every run leaves. -/
def ToldAsLeft (body : List Tree) : Prop :=
  ∀ names left, exportedNames body = some names → LeavesNames body left → ∀ x, x ∈ names ↔ x ∈ left

theorem told_eq_left {body : List Tree} {left : List String} (literal : isLiteralList body = true)
    (leaves : LeavesNames body left) : exportedNames body = some left := by
  obtain ⟨shape, run⟩ := leaves
  obtain ⟨shape', names, told, same⟩ := told_of_literal run literal
  obtain ⟨-, texts⟩ := Content.sequence.inj (Option.some.inj same)
  rw [told, List.map_injective_iff.mpr (Option.some_injective String) texts]

theorem toldAsLeft_iff {body : List Tree} {left : List String} (leaves : LeavesNames body left) :
    ToldAsLeft body ↔ exportedNames body = none ∨ isLiteralList body = true := by
  constructor
  · intro exact_
    by_contra neither
    obtain ⟨something, notLiteral⟩ := not_or.mp neither
    obtain ⟨names, told⟩ := Option.ne_none_iff_exists'.mp something
    obtain ⟨shape, run⟩ := leaves
    obtain ⟨stranger, absent⟩ := Infinite.exists_notMem_finset names.toFinset
    obtain ⟨left', run', member⟩ := exists_run_with run rfl (Bool.eq_false_iff.mpr notLiteral) stranger
    exact absent (List.mem_toFinset.mpr ((exact_ names left' told ⟨shape, run'⟩ stranger).mpr member))
  · rintro (nothing | literal) names left' told leaves' x
    · rw [nothing] at told
      cases told
    · obtain rfl : left' = names := Option.some.inj ((told_eq_left literal leaves').symm.trans told)
      rfl

/-- A module whose list of exported names is literal exports the names of the list. The names that statements tell are
those that every run leaves exactly if they tell none, or the list is literal in the end; it is if all its values are. -/
theorem exports_told_iff (body : List Tree) :
    (∀ left, LeavesNames body left →
      (ToldAsLeft body ↔ exportedNames body = none ∨ isLiteralList body = true) ∧
      (isLiteralList body = true → exportedNames body = some left ∧
        ∀ name x, NameExported name ⟨body⟩ [] x ↔ Public name ∧ Public x ∧ x ∈ left) ∧
      ((∀ t ∈ body, ∀ value, (effectOf t).value? = some value → isLiteral value = true) →
        isLiteralList body = true)) ∧
    (exportedNames body = none ↔
      ∀ t ∈ body, ∀ value, (effectOf t).value? = some value → literalNames value = none) := by
  refine ⟨?_, exportedNames_eq_none_iff body⟩
  intro left leaves
  refine ⟨toldAsLeft_iff leaves, ?_, ?_⟩
  · intro literal
    have told := told_eq_left literal leaves
    refine ⟨told, ?_⟩
    intro name x
    rw [nameExported_iff, told]
    simp [topName]
  · intro literal
    obtain ⟨shape, run⟩ := leaves
    exact isLiteralList_of_values run (Option.some_ne_none _) literal

/-- A module with a literal list of exported names that is extended by a tuple. -/
def extendedListTree : Module where
  body :=
    [.node .assign none
      [.ofName "__all__" .store none,
       .node (.list .load) none [.node (.literal (.text "a")) none [], .ofUsage .load]],
     .node (.augmentedAssign "+=") none
      [.ofName "__all__" .store none, .unplaced [],
       .node (.tuple .load) none [.node (.literal (.text "b")) none [], .ofUsage .load]]]

theorem extendedListTree_leaves : LeavesNames extendedListTree.body ["a", "b"] := by
  have first : (effectOf extendedListTree.body[0]).Leads none (some (.sequence .list [some "a"])) :=
    ⟨_, ⟨[[some "a"], []], .cons rfl (.cons rfl .nil), rfl⟩, rfl⟩
  have second : (effectOf extendedListTree.body[1]).Leads (some (.sequence .list [some "a"]))
      (some (.sequence .list [some "a", some "b"])) :=
    ⟨.sequence .tuple [some "b"], _, ⟨[[some "b"], []], .cons rfl (.cons rfl .nil), rfl⟩, ⟨rfl, nofun, rfl⟩, rfl⟩
  exact ⟨.list, .step (.step .start first) second⟩

theorem exports_told_extended :
    LeavesNames extendedListTree.body ["a", "b"] ∧ isLiteralList extendedListTree.body = true ∧
      exportedNames extendedListTree.body = some ["a", "b"] := by
  have literal : isLiteralList extendedListTree.body = true := by decide +kernel
  exact ⟨extendedListTree_leaves, literal,
    (((exports_told_iff extendedListTree.body).1 _ extendedListTree_leaves).2.1 literal).1⟩

/-! ## A list that is replaced by a sum -/

/-- A module that replaces its literal list of exported names by the sum of two lists. -/
def replacedList : String := "__all__ = [\"a\"]\n__all__ = [\"b\"] + [\"c\"]\nb = 1\n"

/-- Its syntax. -/
def replacedListTree : Module where
  body :=
    [.node .assign (some ⟨1, some 0, some 1, some 15⟩)
      [.ofName "__all__" .store (some ⟨1, some 0, some 1, some 7⟩),
       .node (.list .load) (some ⟨1, some 10, some 1, some 15⟩)
        [.node (.literal (.text "a")) (some ⟨1, some 11, some 1, some 14⟩) [], .ofUsage .load]],
     .node .assign (some ⟨2, some 0, some 2, some 23⟩)
      [.ofName "__all__" .store (some ⟨2, some 0, some 2, some 7⟩),
       .node .plain (some ⟨2, some 10, some 2, some 23⟩)
        [.node (.list .load) (some ⟨2, some 10, some 2, some 15⟩)
          [.node (.literal (.text "b")) (some ⟨2, some 11, some 2, some 14⟩) [], .ofUsage .load],
         .unplaced [],
         .node (.list .load) (some ⟨2, some 18, some 2, some 23⟩)
          [.node (.literal (.text "c")) (some ⟨2, some 19, some 2, some 22⟩) [], .ofUsage .load]]],
     .node .assign (some ⟨3, some 0, some 3, some 5⟩)
      [.ofName "b" .store (some ⟨3, some 0, some 3, some 1⟩),
       .node (.literal (.number false)) (some ⟨3, some 4, some 3, some 5⟩) []]]

theorem replacedListTree_leaves : LeavesNames replacedListTree.body ["b", "c"] := by
  have first : (effectOf replacedListTree.body[0]).Leads none (some (.sequence .list [some "a"])) :=
    ⟨_, ⟨[[some "a"], []], .cons rfl (.cons rfl .nil), rfl⟩, rfl⟩
  have second : (effectOf replacedListTree.body[1]).Leads (some (.sequence .list [some "a"]))
      (some (.sequence .list [some "b", some "c"])) := ⟨_, trivial, rfl⟩
  have third : (effectOf replacedListTree.body[2]).Leads (some (.sequence .list [some "b", some "c"]))
      (some (.sequence .list [some "b", some "c"])) := rfl
  exact ⟨.list, .step (.step (.step .start first) second) third⟩

/-- The names of the first list are told, although the module leaves those of the sum: a name that it exports is hidden. -/
theorem replaced_list_hides_name :
    exportedNames replacedListTree.body = some ["a"] ∧ LeavesNames replacedListTree.body ["b", "c"] ∧
      ¬ ToldAsLeft replacedListTree.body ∧
      ⟨⟨40, 41⟩, .binding, some "b", false⟩ ∈ moduleNodes (.ofChars replacedList.toList) "mod" replacedListTree := by
  have told : exportedNames replacedListTree.body = some ["a"] := by decide +kernel
  refine ⟨told, replacedListTree_leaves, ?_, by decide +kernel⟩
  intro exact_
  have listed := (exact_ _ _ told replacedListTree_leaves "b").mpr (by simp)
  exact absurd listed (by decide)

end SpellLint.Source
