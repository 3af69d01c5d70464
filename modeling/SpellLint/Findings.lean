import Std.Data.TreeMap
import SpellLint.Policy
import SpellLint.SourceView
import SpellLint.Spelling

/-! # Findings

Which unknown words stand at which span of a source. Words that are found at the same span are one finding. The
findings have an order: by span, and the words of a finding ascend.
-/

set_option autoImplicit false

namespace SpellLint

/-- The unknown words at each span. -/
abbrev Findings := Std.TreeMap Span (Std.TreeSet String) Span.order

namespace Findings

/-- Nothing is found. -/
def none : Findings := ∅

/-- Adds words to those found at a span; a span may be entered without words. -/
def merge (f : Findings) (span : Span) (words : List String) : Findings :=
  f.insert span (words.foldl (·.insert ·) (f.getD span ∅))

/-- The spans with their words, both ascending. -/
def entries (f : Findings) : List (Span × List String) :=
  f.toList.map fun (span, words) => (span, words.toList)

/-- The spans at which there are words, with their words, both ascending. -/
def ordered (f : Findings) : List (Span × List String) :=
  f.entries.filter (·.2 ≠ [])

/-! ## Collecting -/

/-- Whether a policy looks at nodes of a kind. -/
def looksAt (policy : Policy) (kind : NodeKind) : Bool :=
  kind.isName || kind = .doc || (kind = .comment && policy.comments)

/-- Whether a policy leaves a node out because it is not visible. -/
def leftOut (policy : Policy) (node : Node) : Bool := policy.exportedOnly && !node.exported

/-- The text of a node that a policy checks. -/
def checkedText (policy : Policy) (node : Node) : Option String :=
  if leftOut policy node || !looksAt policy node.kind then Option.none else node.text.filter (· ≠ "")

/-- The unknown words of a node. -/
def unknownAt (d : Dictionary) (policy : Policy) (node : Node) : List String :=
  match checkedText policy node with
  | some text => (unknownWords text d policy.possessives).toList
  | Option.none => []

/-- Adds the findings of a node. -/
def addNode (d : Dictionary) (policy : Policy) (f : Findings) (node : Node) : Findings :=
  match unknownAt d policy node with
  | [] => f
  | words => f.merge node.span words

/-- The findings of a list of nodes. -/
def ofNodes (d : Dictionary) (policy : Policy) (nodes : List Node) : Findings :=
  nodes.foldl (addNode d policy) Findings.none

/-- How many of the visible nodes carry nothing to check. -/
def skipped (policy : Policy) (nodes : List Node) : Nat :=
  nodes.countP fun node => !leftOut policy node && (checkedText policy node).isNone

/-- The findings of a source. -/
def ofView (d : Dictionary) (policy : Policy) (view : SourceView) : Logged Findings := do
  let nodes ← view.nodes
  let found := ofNodes d policy nodes
  Logged.tell .debug "services.collector"
    s!"Collected {found.size} misspelled span(s); skipped {skipped policy nodes} node(s)"
  return found

end Findings

end SpellLint
