import SpellLint.Source.Syntax

/-! # Documentation texts

The first statement of a module, a function or a class documents it if it is a text. Its margin is removed: tabs
become blanks, the indentation that all lines but the first share is cut, and blank lines at both ends go.
-/

set_option autoImplicit false

namespace SpellLint.Source

open SpellLint.Text

/-- The text behind column `column` with blanks for tabs, in reverse in front of `done`. -/
def expandTabsFrom (column : Nat) (done : List Char) : List Char → List Char
  | [] => done.reverse
  | c :: cs =>
    if c = '\t' then
      let width := 8 - column % 8
      expandTabsFrom (column + width) (List.replicate width ' ' ++ done) cs
    else expandTabsFrom (if c = '\n' ∨ c = '\r' then 0 else column + 1) (c :: done) cs

/-- The text with blanks for tabs, which reach to the next multiple of eight. -/
def expandTabs (cs : List Char) : List Char := expandTabsFrom 0 [] cs

/-- The number of blanks in front of a line; none if the line is blank. -/
def indentOf (line : List Char) : Option Nat :=
  let content := line.dropWhile isBlank
  if content.isEmpty then none else some (line.length - content.length)

/-- The text without its margin. -/
def cleanMargin (text : List Char) : List Char :=
  match splitBy (· == '\n') (expandTabs text) with
  | [] => []
  | first :: rest =>
    let margin := ((rest.filterMap indentOf).min?).getD 0
    let lines := first.dropWhile isBlank :: rest.map (·.drop margin)
    let kept := ((lines.dropWhile (·.isEmpty)).reverse.dropWhile (·.isEmpty)).reverse
    ['\n'].intercalate kept

/-- The documentation of a body: the place of its first statement and the text, if there is one. -/
def docstring (body : List Tree) : Option (Option Extent × String) :=
  match body with
  | .node .statement e [value] :: _ =>
    match value.text? with
    | some text =>
      let cleaned := cleanMargin text.toList
      if cleaned.isEmpty then none else some (e, String.ofList cleaned)
    | none => none
  | _ => none

end SpellLint.Source
