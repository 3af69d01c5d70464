import SpellLint.Processor
import SpellLint.Source.Encoding
import SpellLint.Source.Parsed

/-! # Source files

A file of the checked language: its bytes are decoded as it declares, its line ends are unified, and its text is
parsed. Each step may find that there is no source; this is kept with the file, for the check to report.
-/

set_option autoImplicit false

namespace SpellLint.Source

open SpellLint.Text

/-! ## Faults -/

/-- The class of an error of the grammar. -/
def SourceError.kind : SourceError → String
  | nullCharacter => "ValueError"
  | tabs => "TabError"
  | indentation => "IndentationError"
  | malformed => "SyntaxError"

/-- Why a file holds no source. -/
inductive ReadFault where
  | encoding (e : EncodingError)
  | bytes (e : DecodeError)
  | grammar (e : SourceError)
  deriving DecidableEq, Repr

namespace ReadFault

/-- The class of a fault. -/
def kind : ReadFault → String
  | encoding _ => "SyntaxError"
  | bytes _ => "UnicodeDecodeError"
  | grammar e => e.kind

/-- What is said about a fault; errors of the grammar have no text of their own. -/
def text (file : Path) : ReadFault → Option String
  | encoding e => some (e.message file)
  | bytes e => some e.message
  | grammar .nullCharacter => some "source code string cannot contain null bytes"
  | grammar _ => none

/-- A fault in a log record. -/
def logged (file : Path) (f : ReadFault) : String := (f.text file).getD f.kind

/-- A fault in a result: its class and its text. -/
def detail (file : Path) (f : ReadFault) : String :=
  match f.text file with
  | some text => f.kind ++ ": " ++ text
  | none => f.kind

end ReadFault

/-! ## Files -/

/-- A file of the checked language. -/
structure SourceFile where
  path : Path
  size : Nat
  source : Except ReadFault Parsed

namespace SourceFile

/-- The source that bytes hold. -/
def sourceOf (path : Path) (bytes : List UInt8) : Except ReadFault Parsed := do
  let charset ← (detectEncoding bytes).mapError .encoding
  let text ← (charset.decode bytes).mapError .bytes
  (Parsed.parse path (String.ofList (unifyLineEnds text))).mapError .grammar

/-- Logs why a file holds no source. -/
def warn (path : Path) (source : Except ReadFault Parsed) : Logged Unit :=
  match source with
  | .ok _ => return ()
  | .error f => Logged.tell .warning "processors.python_processor" s!"Cannot parse {path}: {f.logged path}"

/-- Reads a file. -/
def read (fs : FileSystem) (path : Path) : Logged (Except Failure SourceFile) :=
  match fs.read path with
  | .error e => return .error (e.failure path)
  | .ok bytes => do
    let source := sourceOf path bytes
    warn path source
    return .ok ⟨path, bytes.length, source⟩

/-- The number of lines; none if there is no source. -/
def lineCount (f : SourceFile) : Nat :=
  match f.source with
  | .ok p => p.lines.count
  | .error _ => 0

/-- Why there is no source. -/
def fault (f : SourceFile) : Option String :=
  match f.source with
  | .ok _ => none
  | .error e => some (e.detail f.path)

/-- What checks see of a file. -/
def artifact (f : SourceFile) : Artifact where
  path := f.path
  extension := f.path.extension
  size := f.size
  content :=
    match f.source with
    | .ok p => .readable p.view
    | .error e => .unreadable (.text (e.detail f.path))

end SourceFile

/-- The processor of the checked language. -/
def processor : Processor where
  supports := [".py", ".pyi"]
  build fs path := do return (← SourceFile.read fs path).map SourceFile.artifact

end SpellLint.Source
