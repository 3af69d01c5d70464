import SpellLint.Artifact
import SpellLint.Files.FileSystem

/-! # Processors

A processor reads files of some kinds for the checks. A file whose content is no source is not a failure: its
artifact says so. A file that cannot be read is one.
-/

set_option autoImplicit false

namespace SpellLint

/-- A reader of files with some extensions. -/
structure Processor where
  supports : List String
  build : FileSystem → Path → Logged (Except Failure Artifact)

/-- The failure of a file that cannot be read. -/
def FileError.failure (e : FileError) (p : Path) : Failure := ⟨e.kind, e.message p⟩

end SpellLint
