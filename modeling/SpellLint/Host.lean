import SpellLint.Check.Settings
import SpellLint.Config
import SpellLint.Files.FileSystem
import SpellLint.WordList

/-! # Hosts -/

set_option autoImplicit false

namespace SpellLint

/-- What a run works on: files, the environment, the settings of the checks and the built-in word lists. -/
structure Host where
  files : FileSystem
  environment : Environment
  settings : Settings
  builtins : WordList.Builtins

end SpellLint
