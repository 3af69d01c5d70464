/-! # Spans

A range of characters inside one text. Spans are ordered by start, then by end, which is the order of reports.
-/

set_option autoImplicit false

namespace SpellLint

/-- The characters from `start` up to, but without, `stop`. -/
structure Span where
  start : Int
  stop : Int
  deriving DecidableEq, Repr, Inhabited

namespace Span

/-- By start, then by end. -/
def order (a b : Span) : Ordering :=
  (compare a.start b.start).then (compare a.stop b.stop)

/-- The empty range at the start of a text. -/
def origin : Span := ⟨0, 0⟩

end Span

end SpellLint
