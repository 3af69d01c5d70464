/-! # The policy of checking

What a check looks at and what it lets pass.
-/

set_option autoImplicit false

namespace SpellLint

/-- The settings of the check. -/
structure Policy where
  /-- Only names that are visible from outside. -/
  exportedOnly : Bool
  /-- The possessive of a known word is known. -/
  possessives : Bool
  /-- Comments are checked too. -/
  comments : Bool
  deriving DecidableEq, Repr, Inhabited

namespace Policy

/-- Every name and text is checked, but no comments, and possessives are no words of their own. -/
def standard : Policy := ⟨false, false, false⟩

end Policy

end SpellLint
