import SpellLint.Main
import SpellLint.Page.Run
import SpellLint.Proofs.Check.Monotone
import SpellLint.Proofs.Command.Outcomes
import SpellLint.Proofs.Registry.Uniqueness
import SpellLint.Proofs.Source.Attribute
import SpellLint.Proofs.Source.Position
import SpellLint.Proofs.Source.Preorder
import SpellLint.Proofs.Word.Positions
import SpellLint.Source.Parsed
import SpellLint.Spelling
import SpellLint.Proofs.Word.Refinement
import SpellLint.Proofs.Word.Tokens
import SpellLint.Proofs.Spelling.Possessive
import SpellLint.Proofs.Dictionary.Casing
import SpellLint.Proofs.Source.ExportList
import SpellLint.Proofs.Source.CommentPlace
import SpellLint.Proofs.Files.SameFile
import SpellLint.Proofs.Scan.Routing
import SpellLint.Proofs.Registry.Claims
import SpellLint.Proofs.Source.Bounds
import SpellLint.Proofs.Source.TextTable
import SpellLint.Proofs.WordList.Sources
import SpellLint.Proofs.Report.ReadBack
import SpellLint.Proofs.Log.SetUps
import SpellLint.Proofs.Text.Lines
import SpellLint.Proofs.Page.Lists
import SpellLint.Proofs.Page.Counts
import SpellLint.Proofs.Page.Filter
