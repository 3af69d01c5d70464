import SpellLint.Value

/-! # Elements of a page

What a page shows and asks for, in the order in which it appears.
-/

set_option autoImplicit false

namespace SpellLint

/-- A table with a number for every row. -/
structure DataTable where
  columns : List String
  rows : List (Nat × List Value)

namespace DataTable

/-- The table without columns and rows. -/
def none : DataTable := ⟨[], []⟩

/-- The rows as records. -/
def records (t : DataTable) : List Value := t.rows.map fun r => .record (t.columns.zip r.2)

end DataTable

/-- The tone of a notice. -/
inductive Tone where
  | info
  | success
  | warning
  | error
  deriving DecidableEq, Repr

/-- An element of a page. Columns are numbered from the left. -/
inductive Element where
  | pageSettings
  | title (text : String)
  | subheader (text : String)
  /-- A heading of the sidebar. -/
  | header (text : String)
  | caption (inSidebar : Bool) (text : String)
  | divider
  | notice (tone : Tone) (text : String)
  | textInput (column : Option Nat) (label : String) (value : Option String)
  /-- A text of several lines in the sidebar. -/
  | textArea (label value : String)
  /-- A box to tick in the sidebar. -/
  | checkbox (label : String) (value : Bool)
  | button (label : String)
  | columns (count : Nat)
  /-- A number with its label. -/
  | metric (column : Nat) (label : String) (number : Nat)
  /-- A part of the page that can be unfolded. -/
  | expander (label : String)
  /-- A choice of any number of options, some of which are chosen at first. -/
  | choice (column : Nat) (label : String) (options chosen : List Value)
  | table (data : DataTable)
  | download (column : Nat) (label data fileName mediaType : String)
  /-- A bar that shows how much of the work is done, in percent. -/
  | progressBar (percent : Int)
  /-- A line that is written over and over. -/
  | statusLine
  /-- Moves the bar. -/
  | advance (percent : Int)
  /-- Writes an information over the line. -/
  | statusNotice (text : String)
  /-- Writes over the line. -/
  | statusText (text : String)

end SpellLint
