import SpellLint.Page.Run
import SpellLint.Proofs.Report.Outputs

/-! # What a page asks for

A page that does not break down yields a value, shows elements and logs records, and these do not depend on what has
been shown and logged before (`Yields`). What an element yields is what has been entered under its label, or what the
element proposes.
-/

set_option autoImplicit false

namespace SpellLint.Page

/-- Whatever has been shown and logged before, a page yields a value, shows these elements and logs these records. -/
def Yields {α : Type} (answers : Answers) (x : Page α) (a : α) (elements : List Element) (records : List Log.Record) :
    Prop :=
  ∀ s : Shown, x answers s = .ok (a, ⟨s.elements ++ elements, s.records ++ records⟩)

section

variable {answers : Answers} {α β : Type}

theorem yields_pure (a : α) : Yields answers (pure a) a [] [] := by
  intro s
  rw [List.append_nil, List.append_nil]
  rfl

theorem bind_eq_of_ok {x : Page α} {f : α → Page β} {s t : Shown} {a : α} (first : x answers s = .ok (a, t)) :
    (x >>= f) answers s = f a answers t := by
  change (x answers s >>= fun r => f r.1 answers r.2) = _
  rw [first]
  rfl

/-- Of two pages in turn, the second shows what it shows behind the first. -/
theorem Yields.bind {x : Page α} {f : α → Page β} {a : α} {b : β} {es fs : List Element} {rs qs : List Log.Record}
    (first : Yields answers x a es rs) (second : Yields answers (f a) b fs qs) :
    Yields answers (x >>= f) b (es ++ fs) (rs ++ qs) := by
  intro s
  rw [bind_eq_of_ok (first s), second, List.append_assoc, List.append_assoc]

/-- Whatever has been shown and logged before, a page goes on as another once it has shown these elements and logged
these records. -/
def GoesOn (answers : Answers) (x y : Page α) (elements : List Element) (records : List Log.Record) : Prop :=
  ∀ s : Shown, x answers s = y answers ⟨s.elements ++ elements, s.records ++ records⟩

theorem Yields.goesOn {x : Page β} {f : β → Page α} {b : β} {es : List Element} {rs : List Log.Record}
    (first : Yields answers x b es rs) : GoesOn answers (x >>= f) (f b) es rs := fun s => bind_eq_of_ok (first s)

theorem GoesOn.trans {x y z : Page α} {es fs : List Element} {rs qs : List Log.Record}
    (first : GoesOn answers x y es rs) (second : GoesOn answers y z fs qs) :
    GoesOn answers x z (es ++ fs) (rs ++ qs) := by
  intro s
  rw [first, second, List.append_assoc, List.append_assoc]

theorem yields_put (e : Element) : Yields answers (put e) () [e] [] := by
  intro s
  rw [List.append_nil]
  rfl

theorem yields_logged (x : Logged α) : Yields answers (logged x) x.value [] x.records := by
  intro s
  rw [List.append_nil]
  rfl

theorem yields_require {ε : Type} (fault : ε → Failure) {x : Except ε α} {a : α} (done : x = .ok a) :
    Yields answers (require fault x) a [] [] := by
  rw [done]
  exact yields_pure a

theorem yields_entered (label : String) (proposed : Value) :
    Yields answers (entered label proposed) ((answers.lookup label).getD proposed) [] [] := by
  intro s
  rw [List.append_nil, List.append_nil]
  rfl

/-! ## Elements -/

theorem yields_askText (column : Option Nat) (label : String) (value : Option String) :
    Yields answers (askText column label value)
      ((answers.lookup label).getD (.text (value.getD ""))).shown [.textInput column label value] [] :=
  (yields_put _).bind ((yields_entered label _).bind (yields_pure _))

theorem yields_askLines (label value : String) :
    Yields answers (askLines label value) ((answers.lookup label).getD (.text value)).shown [.textArea label value] [] :=
  (yields_put _).bind ((yields_entered label _).bind (yields_pure _))

theorem yields_askTick (label : String) (value : Bool) :
    Yields answers (askTick label value) ((answers.lookup label).getD (.bool value)) [.checkbox label value] [] :=
  (yields_put _).bind (yields_entered label _)

theorem yields_askButton (label : String) :
    Yields answers (askButton label) ((answers.lookup label).getD (.bool false)) [.button label] [] :=
  (yields_put _).bind (yields_entered label _)

end

end SpellLint.Page
