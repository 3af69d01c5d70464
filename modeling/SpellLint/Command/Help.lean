import SpellLint.Command.Option
import SpellLint.Text.Wrap

/-! # The help of the command -/

set_option autoImplicit false

namespace SpellLint.Command

open SpellLint.Text

/-- The name of the command. -/
def name : String := "lexicheck"

/-- How the command is called. -/
def usage : String :=
  "usage: lexicheck [-h] [-d PATH] [-n] [--default-dict SOURCE]\n" ++
    "                 [--language LANGUAGE] [--exported-only] [--comments]\n" ++
    "                 [--possessives] [--json PATH] [--csv PATH] [--files-csv PATH]\n" ++
    "                 [--log-level LOG_LEVEL]\n" ++
    "                 paths [paths ...]\n"

/-- Blanks. -/
def blank (n : Nat) : String := String.ofList (List.replicate n ' ')

/-- How an option is called. -/
def CommandOption.call (o : CommandOption) : String :=
  ", ".intercalate (o.names.map fun name => match o.value with | some v => name ++ " " ++ v | none => name)

/-- The column of the help. -/
def helpColumn : Nat := 24

/-- The width of the help. -/
def helpWidth : Nat := 54

/-- An entry of the help: a short call and the first line of its help share a line. -/
def helpEntry (call help : String) : String :=
  let lines := wrap helpWidth help
  let room := helpColumn - 4
  let first := lines.headD ""
  let start :=
    if call.length ≤ room then "  " ++ call ++ blank (room - call.length) ++ "  " ++ first ++ "\n"
    else "  " ++ call ++ "\n" ++ blank helpColumn ++ first ++ "\n"
  start ++ String.join ((lines.drop 1).map fun line => blank helpColumn ++ line ++ "\n")

/-- The help of the command. -/
def help (table : List CommandOption) : String :=
  usage ++ "\nSpell-check identifiers, docstrings and comments in Python source files.\n\npositional arguments:\n" ++
    helpEntry "paths" "Files or folders to check (folders are searched recursively)" ++
    "\noptions:\n" ++ String.join (table.map fun o => helpEntry o.call o.help)

end SpellLint.Command
