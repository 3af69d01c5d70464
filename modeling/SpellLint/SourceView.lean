import SpellLint.Log
import SpellLint.Node

/-! # The view of a source

What the checker needs of a source in any language: its nodes in any order, the words that the source itself asks
to accept, and how a span is shown to a reader. Listing the nodes may be worth a log record.
-/

set_option autoImplicit false

namespace SpellLint

/-- A source as the checker sees it. -/
structure SourceView where
  nodes : Logged (List Node)
  acceptedWords : List String
  location : Span → String
  firstLine : Span → Option String

end SpellLint
