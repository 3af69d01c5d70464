import SpellLint.Files.Path
import SpellLint.Text.Charset

/-! # The encoding of a source file

A source file may declare its encoding in a comment on one of its first two lines; the second counts only if the
first is blank or a comment. A file that starts with a byte order mark is in UTF-8 and may declare nothing else.
-/

set_option autoImplicit false

namespace SpellLint.Source

open SpellLint.Text

/-- Why a file has no encoding. -/
inductive EncodingError where
  /-- The lines that could declare it are not in UTF-8. -/
  | unreadable
  /-- The declared encoding is not known. -/
  | unknown (name : String)
  /-- The declared encoding is not that of the byte order mark. -/
  | marked
  deriving DecidableEq, Repr

/-- What is said about a file without an encoding. -/
def EncodingError.message (e : EncodingError) (file : Path) : String :=
  match e with
  | unreadable => "invalid or missing encoding declaration for " ++ quoted file.toString
  | unknown name => "unknown encoding for " ++ quoted file.toString ++ ": " ++ name
  | marked => "encoding problem for " ++ quoted file.toString ++ ": utf-8"

/-! ## Declarations -/

/-- The blanks that may stand in front of a comment. -/
def isIndent (c : Char) : Bool := c = ' ' || c = '\t' || c = '\x0c'

/-- The characters of an encoding's name. -/
def isNamePart (c : Char) : Bool := c.isAlphanum || c = '_' || c = '-' || c = '.'

/-- The name that is declared where a text starts. -/
def declaredHere (cs : List Char) : Option String :=
  if "coding".toList.isPrefixOf cs then
    match cs.drop 6 with
    | c :: rest =>
      let name := (rest.dropWhile fun c => c = ' ' || c = '\t').takeWhile isNamePart
      if (c = ':' ∨ c = '=') ∧ name ≠ [] then some (String.ofList name) else none
    | [] => none
  else none

/-- The first name that is declared anywhere in a text. -/
def declaredIn : List Char → Option String
  | [] => none
  | c :: cs => (declaredHere (c :: cs)).orElse fun _ => declaredIn cs

/-- The name that a line declares: only comments declare. -/
def declaredOn (line : List Char) : Option String :=
  match line.dropWhile isIndent with
  | '#' :: comment => declaredIn comment
  | _ => none

/-- Whether a line holds nothing, or only a comment. -/
def isBlankOrComment (line : List Char) : Bool :=
  match line.dropWhile isIndent with
  | [] => true
  | c :: _ => c = '#' || c = '\r' || c = '\n'

/-- The name under which a declared encoding is looked up: the many names of UTF-8 and Latin-1 with their
variants are brought together. -/
def lookupName (name : String) : String :=
  let short := String.ofList ((name.toList.take 12).map fun c => if c = '_' then '-' else c.toLower)
  let isVariant (base : String) : Bool := (base ++ "-").toList.isPrefixOf short.toList
  let latin := ["latin-1", "iso-8859-1", "iso-latin-1"]
  if short = "utf-8" ∨ isVariant "utf-8" then "utf-8"
  else if latin.contains short || latin.any isVariant then "iso-8859-1"
  else name

/-! ## Detection -/

/-- The encoding that a line declares. -/
def encodingOn (isMarked : Bool) (line : List UInt8) : Except EncodingError (Option Charset) :=
  match decodeUtf8 line with
  | .error _ => .error .unreadable
  | .ok cs =>
    match (declaredOn cs).map lookupName with
    | none => .ok none
    | some name =>
      match Charset.named name with
      | none => .error (.unknown name)
      | some charset =>
        if isMarked then if name = "utf-8" then .ok (some .signedUtf8) else .error .marked
        else .ok (some charset)

/-- The bytes up to and with the first line feed, and the bytes behind it. -/
def firstLineOf (bytes : List UInt8) : List UInt8 × List UInt8 :=
  let line := bytes.takeWhile (· ≠ 10)
  (line ++ (bytes.drop line.length).take 1, bytes.drop (line.length + 1))

/-- The encoding of a file. -/
def detectEncoding (bytes : List UInt8) : Except EncodingError Charset := do
  let isMarked := Charset.mark.isPrefixOf bytes
  let standard := if isMarked then Charset.signedUtf8 else Charset.utf8
  let (first, rest) := firstLineOf (Charset.unmarked bytes)
  if first.isEmpty then return standard
  if let some charset ← encodingOn isMarked first then return charset
  if !isBlankOrComment (first.map fun b => Char.ofNat b.toNat) then return standard
  let (second, _) := firstLineOf rest
  if second.isEmpty then return standard
  return (← encodingOn isMarked second).getD standard

end SpellLint.Source
