import SpellLint.Log
import SpellLint.Page.Element
import SpellLint.Result

/-! # Pages

A page is a computation that shows elements, asks for what the user has entered, and logs. What has not been
entered is what the element proposes. A page that breaks down shows nothing.
-/

set_option autoImplicit false

namespace SpellLint

/-- What the user has entered, by the labels of the elements. -/
abbrev Answers := List (String × Value)

/-- What a page has shown and logged. -/
structure Shown where
  elements : List Element
  records : List Log.Record

/-- A computation that shows elements. -/
abbrev Page := ReaderT Answers (StateT Shown (Except Failure))

namespace Page

variable {α : Type}

/-- Shows an element. -/
def put (e : Element) : Page Unit := modify fun s => { s with elements := s.elements ++ [e] }

/-- Runs a computation that logs. -/
def logged (x : Logged α) : Page α := do
  modify fun s => { s with records := s.records ++ x.records }
  return x.value

/-- Breaks down unless a computation succeeds. -/
def require {ε : Type} (fault : ε → Failure) : Except ε α → Page α
  | .ok a => return a
  | .error e => throw (fault e)

/-- What has been entered under a label; `proposed` if nothing has. -/
def entered (label : String) (proposed : Value) : Page Value := return ((← read).lookup label).getD proposed

/-- Asks for a text. -/
def askText (column : Option Nat) (label : String) (value : Option String) : Page String := do
  put (.textInput column label value)
  return (← entered label (.text (value.getD ""))).shown

/-- Asks for a text of several lines. -/
def askLines (label value : String) : Page String := do
  put (.textArea label value)
  return (← entered label (.text value)).shown

/-- Asks whether a box is ticked. -/
def askTick (label : String) (value : Bool) : Page Value := do
  put (.checkbox label value)
  entered label (.bool value)

/-- Asks whether a button has been pressed. -/
def askButton (label : String) : Page Value := do
  put (.button label)
  entered label (.bool false)

/-- Asks which options are chosen. -/
def askChoice (column : Nat) (label : String) (options chosen : List Value) : Page (List Value) := do
  put (.choice column label options chosen)
  match ← entered label (.list chosen) with
  | .list items => return items
  | _ => return []

end Page

end SpellLint
