import SpellLint.Config
import SpellLint.Page.Basic
import SpellLint.Report.Table

/-! # The sidebar

The user's word lists and policy, which outweigh the configuration, and how many files a folder holds.
-/

set_option autoImplicit false

namespace SpellLint.Page

open SpellLint.Text

/-- The paths of a text: every line is a list of paths. -/
def pathsOf (entry : String) : List String := (splitLines entry).flatMap Config.splitPaths

/-- The text that a configuration proposes for the word lists: every path is a line. -/
def proposedLists (config : Value) : Except Failure String :=
  let lists := config.get "dictionaries"
  if lists.holds then do return "\n".intercalate (← lists.texts?) else return ""

/-- Whether a setting of a configuration is on; `standard` if there is none. -/
def isOn (config : Value) (name : String) (standard : Bool) : Bool :=
  if config.has name then (config.get name).holds else standard

/-- Asks for the word lists and the policy, and puts them into a configuration. -/
def askOptions (config : Value) : Page Value := do
  put (.header "Dictionary")
  let useDefault ← askTick "Use default dictionary" (isOn config "use_default_dictionary" true)
  let lists ← askLines "Extra word lists (one path per line)" (← require id (proposedLists config))
  put (.header "Checking")
  let exportedOnly ← askTick "Public names only" (isOn config "exported_only" false)
  let comments ← askTick "Check '#' comments" (isOn config "check_comments" false)
  let possessives ← askTick "Accept possessives" (isOn config "strip_possessives" false)
  return ((((config.put "use_default_dictionary" useDefault).put "dictionaries" (.texts (pathsOf lists))).put
    "exported_only" exportedOnly).put "check_comments" comments).put "strip_possessives" possessives

/-- Shows how many files a folder holds. -/
def showCount (folder : Path) (count : Nat) : Page Unit :=
  let shown := if folder.name = "" then folder.toString else folder.name
  put (.caption true s!"Python files under {shown}: {count}")

end SpellLint.Page
