import SpellLint.Result
import SpellLint.SourceView

/-! # Artifacts

What is known of a file once it has been read: enough for checks to look at it, and no more.
-/

set_option autoImplicit false

namespace SpellLint

/-- The content of a file: a source that can be checked, or what is known about why there is none. -/
inductive Content where
  | readable (view : SourceView)
  | unreadable (detail : Value)

/-- The content that a record of details stands for, with the source if there is one: a details record that
reports a read error outweighs the source. -/
def Content.ofDetails (details : Value) (view : Option SourceView) : Content :=
  if (details.get "read_error").holds then .unreadable (details.get "read_error_detail")
  else
    match view with
    | some v => .readable v
    | none => .unreadable (details.get "read_error_detail")

/-- A file that has been read. -/
structure Artifact where
  path : Path
  extension : String
  size : Nat
  content : Content

end SpellLint
