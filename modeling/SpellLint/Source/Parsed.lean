import SpellLint.Files.Path
import SpellLint.Source.Comment
import SpellLint.Source.Grammar.Module
import SpellLint.Source.Walk
import SpellLint.SourceView

/-! # Parsed sources

A source that the grammar accepts, with its lines and its syntax, and its view for the checker: the nodes of the
syntax, then the comments.
-/

set_option autoImplicit false

namespace SpellLint.Source

/-- A source of the checked language. -/
structure Parsed where
  path : Path
  text : List Char
  lines : LineTable
  module : Module

namespace Parsed

/-- Parses the text of a file. -/
def parse (path : Path) (text : String) : Except SourceError Parsed := do
  let cs := text.toList
  let module ← Grammar.readModule cs
  return ⟨path, cs, .ofChars cs, module⟩

/-- The name of the module: that of its file, or of its folder if the file stands for the folder. -/
def moduleName (p : Parsed) : String :=
  if p.path.stem = "__init__" && p.path.parent.name ≠ "" then p.path.parent.name else p.path.stem

/-- The nodes of the syntax. -/
def treeNodes (p : Parsed) : List Node := moduleNodes p.lines p.moduleName p.module

/-- The comments that are prose. A comment scan that fails is logged and keeps what it found. -/
def commentNodes (p : Parsed) : Logged (List Node) := do
  let (comments, fault) := scanComments p.text
  match fault with
  | some f =>
    Logged.tell .warning "processors.python_tree" s!"Could not tokenize comments in {p.path}: {f.label}"
  | none => pure ()
  return comments.filterMap (commentNode p.lines)

/-- The nodes of the syntax, then the comments. -/
def nodes (p : Parsed) : Logged (List Node) := do
  return p.treeNodes ++ (← p.commentNodes)

/-- The words that the source asks to accept. -/
def acceptedWords (p : Parsed) : List String := Source.acceptedWords p.module.body

/-- What the checker sees. -/
def view (p : Parsed) : SourceView where
  nodes := p.nodes
  acceptedWords := p.acceptedWords
  location := p.lines.location p.path.toString
  firstLine := p.lines.firstLine

end Parsed

end SpellLint.Source
