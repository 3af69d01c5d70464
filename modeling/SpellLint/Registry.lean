import Std.Data.TreeMap
import SpellLint.Text.Case

/-! # Registries

What a run can use, in the order of registration. Everything registered has a lineage: its own class and the
classes that it is derived from. An instance is turned away if one whose class is, or is derived from, its own
class is already there.
-/

set_option autoImplicit false

namespace SpellLint

open SpellLint.Text

/-- The own class of something registered, and the classes that it is derived from. -/
structure Lineage where
  kind : String
  ancestors : List String
  deriving DecidableEq, Repr

/-- Whether instances of a lineage are instances of a class. -/
def Lineage.isA (l : Lineage) (kind : String) : Bool := l.kind = kind || l.ancestors.contains kind

/-- Things registered, each with its lineage, in order. -/
structure Registry (α : Type) where
  entries : List (Lineage × α)

namespace Registry

variable {α : Type}

/-- Nothing is registered. -/
def empty : Registry α := ⟨[]⟩

/-- Whether an instance of a class is registered. -/
def hasInstance (r : Registry α) (kind : String) : Bool := r.entries.any (·.1.isA kind)

/-- Registers something, unless an instance of its class is registered. -/
def register (r : Registry α) (lineage : Lineage) (a : α) : Registry α :=
  if r.hasInstance lineage.kind then r else ⟨r.entries ++ [(lineage, a)]⟩

/-- What is registered, in order. -/
def toList (r : Registry α) : List α := r.entries.map (·.2)

/-! ## Extensions -/

/-- What each claimed extension leads to, in lower case; a later claim takes the place of an earlier one. -/
def index (r : Registry α) (supports : α → List String) : Std.TreeMap String α :=
  r.toList.foldl (fun index a => (supports a).foldl (fun index e => index.insert (lower e) a) index) ∅

/-- What claims an extension; of several claims the last one registered counts. -/
def claimant (r : Registry α) (supports : α → List String) (extension : String) : Option α :=
  r.toList.reverse.find? fun a => ((supports a).map lower).contains (lower extension)

/-- The claimed extensions in ascending order. -/
def extensions (r : Registry α) (supports : α → List String) : List String :=
  let claimed := r.toList.flatMap fun a => (supports a).map lower
  (claimed.foldl (fun seen e => if seen.contains e then seen else seen ++ [e]) []).mergeSort (· ≤ ·)

end Registry

end SpellLint
