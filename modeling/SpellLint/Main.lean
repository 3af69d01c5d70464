import SpellLint.Command.Run
import SpellLint.Report.Moment

/-! # The command on a real machine

Reads the files and folders that the arguments and the environment name, runs the command on them, prints what it
prints, and writes the files that it changed.
-/

set_option autoImplicit false

namespace SpellLint.Machine

/-! ## Reading -/

/-- The entries of a folder. Links are kept, with the path that they lead to. -/
partial def entriesOf (items : Array IO.FS.DirEntry) : IO (List (String × Entry)) :=
  items.toList.mapM fun item => do
    match (← item.path.symlinkMetadata).type with
    | .dir => return (item.fileName, .folder (← entriesOf (← item.path.readDir)))
    | .symlink =>
      let target ← try pure (← IO.FS.realPath item.path).toString catch _ => pure item.fileName
      return (item.fileName, .link (.ofString target))
    | _ => return (item.fileName, .file (← IO.FS.readBinFile item.path).toList)

/-- The path that a text names on this machine. -/
def pathOf (fs : FileSystem) (text : String) : Path := Path.absolute ⟨"/", fs.here⟩ (.ofString text)

/-- Adds what a text names, if it names anything, and the folder around it. -/
def add (fs : FileSystem) (text : String) : IO FileSystem := do
  let here ← IO.currentDir
  let place := here / text
  let p := pathOf fs text
  if ← place.isDir then return fs.add p (.folder (← entriesOf (← place.readDir)))
  else if ← place.pathExists then return fs.add p (.file (← IO.FS.readBinFile place).toList)
  else if ← (here / p.parent.toString).isDir then return fs.makeFolder p.parent
  else return fs

/-- The texts that may name files: the arguments, what follows a sign of equality in them, and lists of files. -/
def named (arguments : List String) (environment : Environment) : List String :=
  let values := arguments.flatMap fun a => [a, String.ofList ((a.toList.dropWhile (· ≠ '=')).drop 1)]
  let config := Config.load environment
  (values ++ config.defaultList :: config.wordLists).filter (· ≠ "")

/-- The variables that are set. -/
def readEnvironment : IO Environment :=
  Config.variableNames.filterMapM fun name => do return (← IO.getEnv name).map fun value => (name, value)

/-! ## Writing -/

/-- Writes the files that differ from what they were. -/
def writeChanges (before after : FileSystem) (names : List String) : IO Unit :=
  names.forM fun text => do
    let p := pathOf before text
    match before.read p, after.read p with
    | .ok old, .ok new => if old != new then IO.FS.writeBinFile p.toString new.toByteArray
    | .error _, .ok new => IO.FS.writeBinFile p.toString new.toByteArray
    | _, .error _ => return

/-- The time. -/
def now : IO Moment :=
  IO.FS.withTempFile fun _ path => do
    let time := (← path.metadata).modified
    return ⟨time.sec, time.nsec.toNat / 1000⟩

/-- Texts in groups of these sizes. -/
def grouped : List Nat → List String → List String
  | [], _ => []
  | n :: ns, parts => String.join (parts.take n) :: grouped ns (parts.drop n)

/-- A random identifier: version and variant are marked in the seventh and the ninth byte. -/
def identifier : IO String := do
  let bytes := (← IO.getRandomBytes 16).toList.map UInt8.toNat
  let marked := bytes.zipIdx.map fun (b, i) =>
    if i = 6 then 0x40 + b % 16 else if i = 8 then 0x80 + b % 64 else b
  return "-".intercalate (grouped [4, 2, 2, 2, 6] (marked.map (Text.hexadecimal 2)))

/-- Runs the command and gives its exit status. -/
def run (arguments : List String) : IO UInt32 := do
  let environment ← readEnvironment
  let here := Path.ofString (← IO.currentDir).toString
  let names := named arguments environment
  let files ← names.foldlM add (.empty here)
  let time ← now
  let stamp : Stamp := ⟨← identifier, time.text, time.text⟩
  match Command.run ⟨files, environment, .initial, WordList.noBuiltins⟩ stamp arguments with
  | .error e =>
    IO.eprintln s!"{e.kind}: {e.message}"
    return 1
  | .ok o =>
    o.records.forM fun r => IO.eprintln s!"{time.text} {r.line}"
    IO.print o.output
    IO.eprint o.errors
    writeChanges files o.files names
    return o.status.toUInt32

end SpellLint.Machine

/-- Runs the command. -/
def main (arguments : List String) : IO UInt32 := SpellLint.Machine.run arguments
