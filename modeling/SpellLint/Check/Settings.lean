import SpellLint.Dictionary
import SpellLint.Policy
import SpellLint.Value

/-! # The settings of a run

The dictionary that all files share, if one has been loaded, and the policy. A run reads them and does not change
them.
-/

set_option autoImplicit false

namespace SpellLint

/-- Why a setting is refused. -/
inductive SettingsError where
  | notADictionary
  deriving DecidableEq, Repr

/-- What is said about a refused setting. -/
def SettingsError.message : SettingsError → String
  | notADictionary => "Unsupported dictionary type. Use core.dictionary.Dictionary or None."

/-- What checks need to know about the run. -/
structure Settings where
  dictionary : Option Dictionary
  policy : Policy

namespace Settings

/-- Before anything has been set. -/
def initial : Settings := ⟨none, .standard⟩

/-- The policy of a configuration; what is not mentioned is off. -/
def policyOf (config : Value) : Policy :=
  ⟨(config.get "exported_only").holds, (config.get "strip_possessives").holds, (config.get "check_comments").holds⟩

/-- The settings with the policy of a configuration. -/
def apply (s : Settings) (config : Value) : Settings := { s with policy := policyOf config }

/-- The settings with another dictionary, or with none. -/
def withDictionary (s : Settings) (dictionary : Option Dictionary) : Settings := { s with dictionary }

/-- Sets what is not a dictionary: only null is accepted, and clears the dictionary. -/
def withValue (s : Settings) (v : Value) : Except SettingsError Settings :=
  match v with
  | .null => .ok (s.withDictionary none)
  | _ => .error .notADictionary

end Settings

end SpellLint
