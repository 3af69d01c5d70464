import SpellLint.Command.Option
import SpellLint.Files.Path
import SpellLint.Result
import SpellLint.Text.Digit

/-! # Arguments of the command

What the arguments of a command line ask for. Options may stand anywhere; long ones may be shortened as long as
they stay unique, short ones may be joined, and a value may be the next argument or follow behind an equals sign or
behind a short option. Behind two hyphens there are only paths. All paths stand together.
-/

set_option autoImplicit false

namespace SpellLint.Command

open SpellLint.Text

/-! ## Requests -/

/-- What a command line asks for; an option that is not given leaves its default. -/
structure Request where
  paths : List Path
  wordLists : List String
  noDefault : Bool
  defaultList : Option String
  language : Option String
  exportedOnly : Bool
  comments : Bool
  possessives : Bool
  json : Option Path
  csv : Option Path
  filesCsv : Option Path
  logLevel : Option String

/-- Nothing is asked for. -/
def Request.nothing : Request := ⟨[], [], false, none, none, false, false, false, none, none, none, none⟩

/-- Why there is no request. -/
inductive Refusal where
  /-- The help is asked for. -/
  | help
  /-- The arguments are wrong. -/
  | wrong (message : String)
  /-- The reading of the arguments breaks down. -/
  | broken (e : Failure)

/-- Adds a setting to a request; settings that are switches have no value. -/
def Request.set (r : Request) (s : Setting) (value : String) : Except Refusal Request :=
  match s with
  | .help => .error .help
  | .wordList => .ok { r with wordLists := r.wordLists ++ [value] }
  | .noDefault => .ok { r with noDefault := true }
  | .defaultList => .ok { r with defaultList := some value }
  | .language => .ok { r with language := some value }
  | .exportedOnly => .ok { r with exportedOnly := true }
  | .comments => .ok { r with comments := true }
  | .possessives => .ok { r with possessives := true }
  | .json => .ok { r with json := some (.ofString value) }
  | .csv => .ok { r with csv := some (.ofString value) }
  | .filesCsv => .ok { r with filesCsv := some (.ofString value) }
  | .logLevel => .ok { r with logLevel := some value }

/-- A refusal that concerns an option. -/
def wrongOption (o : CommandOption) (message : String) : Refusal :=
  .wrong ("argument " ++ "/".intercalate o.names ++ ": " ++ message)

/-! ## Recognising options -/

/-- An argument, as far as it can be told apart from the others. -/
inductive Word where
  | plain (text : String)
  | dashes
  /-- An option by one of its names, with the text that is joined to it. -/
  | option (o : CommandOption) (name : String) (joined : Option String)
  | unknown (text : String)

/-- A text cut at its first equals sign. -/
def cutAtEquals (text : String) : Option (String × String) :=
  let name := text.toList.takeWhile (· ≠ '=')
  if name.length = text.length then none
  else some (String.ofList name, String.ofList (text.toList.drop (name.length + 1)))

/-- Whether a text looks like a number below zero. -/
def looksNegative (text : String) : Bool :=
  let cs := if text.toList.getLast? = some '\n' then text.toList.dropLast else text.toList
  match cs with
  | '-' :: rest =>
    let fraction := rest.dropWhile isDigit
    match fraction with
    | [] => !rest.isEmpty
    | '.' :: digits => !digits.isEmpty && digits.all isDigit
    | _ => false
  | _ => false

/-- The options that a text may stand for, by a shortened name or with a value joined to a short name. -/
def candidates (names : List (String × CommandOption)) (text : String) : List (String × CommandOption × Option String) :=
  if "--".toList.isPrefixOf text.toList then
    let (start, joined) := match cutAtEquals text with | some (a, b) => (a, some b) | none => (text, none)
    (names.filter fun n => start.toList.isPrefixOf n.1.toList).map fun n => (n.1, n.2, joined)
  else
    let short := String.ofList (text.toList.take 2)
    names.filterMap fun n =>
      if n.1 = short then some (n.1, n.2, some (String.ofList (text.toList.drop 2)))
      else if text.toList.isPrefixOf n.1.toList then some (n.1, n.2, none)
      else none

/-- Tells what an argument is. -/
def recognise (names : List (String × CommandOption)) (text : String) : Except Refusal Word :=
  if text.toList.head? ≠ some '-' then .ok (.plain text)
  else
    match names.lookup text with
    | some o => .ok (.option o text none)
    | none =>
      if text.length = 1 then .ok (.plain text)
      else
        match (cutAtEquals text).bind fun (name, joined) => (names.lookup name).map (·, name, joined) with
        | some (o, name, joined) => .ok (.option o name (some joined))
        | none =>
          match candidates names text with
          | [(name, o, joined)] => .ok (.option o name joined)
          | [] =>
            if looksNegative text || text.toList.contains ' ' then .ok (.plain text) else .ok (.unknown text)
          | several =>
            .error (.wrong (s!"ambiguous option: {text} could match " ++ ", ".intercalate (several.map (·.1))))

/-- Tells what the arguments are; behind two hyphens none is an option. -/
def recogniseAll (names : List (String × CommandOption)) : List String → Except Refusal (List Word)
  | [] => .ok []
  | "--" :: rest => .ok (.dashes :: rest.map .plain)
  | text :: rest => do
    let word ← recognise names text
    return word :: (← recogniseAll names rest)

/-! ## Reading options -/

/-- The value of an option: two hyphens are no value. -/
def valueOf (value : String) : Except Refusal String :=
  if value = "--" then .error (.broken ⟨"ValueError", "not enough values to unpack (expected 1, got 0)"⟩)
  else .ok value

/-- Reads the options that one argument holds, and tells how many of the arguments behind it are taken as values.
`done` are the settings of the switches in front of the option. -/
def readOption (names : List (String × CommandOption)) (next : Option String) :
    (done : List (Setting × String)) → (o : CommandOption) → (name : String) → (joined : Option (List Char)) →
      Except Refusal (List (Setting × String) × Nat)
  | done, o, _, none =>
    match o.value, next with
    | none, _ => .ok (done ++ [(o.setting, "")], 0)
    | some _, some v => .ok (done ++ [(o.setting, v)], 1)
    | some _, none => .error (wrongOption o "expected one argument")
  | done, o, name, some cs =>
    if o.value.isSome then .ok (done ++ [(o.setting, String.ofList cs)], 0)
    else
      match cs with
      | c :: rest =>
        if "--".toList.isPrefixOf name.toList then
          .error (wrongOption o ("ignored explicit argument " ++ quoted (String.ofList (c :: rest))))
        else
          let short := String.ofList ['-', c]
          match names.lookup short with
          | some p =>
            match rest with
            | [] => readOption names next (done ++ [(o.setting, "")]) p short none
            | d :: more => readOption names next (done ++ [(o.setting, "")]) p short (some (d :: more))
          | none => .error (wrongOption o ("ignored explicit argument " ++ quoted (String.ofList (c :: rest))))
      | [] => .error (wrongOption o ("ignored explicit argument " ++ quoted ""))
  termination_by _ _ _ joined => (joined.map (List.length · + 1)).getD 0

/-! ## Reading arguments -/

/-- What has been read: the request so far, the paths once they have been met, and what is left over. -/
structure Reading where
  request : Request
  paths : Option (List String)
  extras : List String

/-- Whether an argument is no option. -/
def Word.isPlain : Word → Bool
  | plain _ => true
  | dashes => true
  | _ => false

/-- The text of an argument that is no option. -/
def Word.text : Word → String
  | plain s => s
  | dashes => "--"
  | option _ name _ => name
  | unknown s => s

/-- Reads a stretch of arguments without options: it holds the paths, unless they have been met. The first two
hyphens in it do not count. -/
def Reading.addPlain (r : Reading) (stretch : List Word) : Reading :=
  let holdsPath := stretch.any fun w => match w with | .plain _ => true | _ => false
  if r.paths.isNone && holdsPath then { r with paths := some ((stretch.map Word.text).erase "--") }
  else { r with extras := r.extras ++ stretch.map Word.text }

/-- Adds the settings of an argument. -/
def Reading.addSettings (r : Reading) (settings : List (Setting × String)) : Except Refusal Reading := do
  let request ← settings.foldlM (fun q s => do q.set s.1 (← valueOf s.2)) r.request
  return { r with request }

/-- The text of the argument that an option may take as its value. -/
def nextValue : List Word → Option String
  | .plain s :: _ => some s
  | _ => none

/-- Reads arguments; `fuel` bounds their number. -/
def readWords (names : List (String × CommandOption)) : (fuel : Nat) → Reading → List Word → Except Refusal Reading
  | 0, r, _ => .ok r
  | _, r, [] => .ok r
  | fuel + 1, r, word :: rest =>
    match word with
    | .option o name joined => do
      let (settings, taken) ← readOption names (nextValue rest) [] o name (joined.map String.toList)
      readWords names fuel (← r.addSettings settings) (rest.drop taken)
    | .unknown s => readWords names fuel { r with extras := r.extras ++ [s] } rest
    | _ =>
      let stretch := (word :: rest).takeWhile Word.isPlain
      readWords names fuel (r.addPlain stretch) ((word :: rest).drop stretch.length)

/-- The request of a command line. -/
def request (table : List CommandOption) (arguments : List String) : Except Refusal Request := do
  let names := optionNames table
  let words ← recogniseAll names arguments
  let r ← readWords names (words.length + 1) ⟨.nothing, none, []⟩ words
  match r.paths with
  | none => .error (.wrong "the following arguments are required: paths")
  | some paths =>
    if r.extras.isEmpty then return { r.request with paths := paths.map .ofString }
    else .error (.wrong ("unrecognized arguments: " ++ " ".intercalate r.extras))

/-- A text, or a default if there is none. -/
def textOr (text : Option String) (dflt : Value) : Value := (text.map Value.text).getD dflt

/-- A path, or null. -/
def pathValue (path : Option Path) : Value := textOr (path.map Path.toString) .null

/-- A switch, or its default. -/
def switchOr (on : Bool) (dflt : Value) : Value := if on then .bool true else dflt

/-- All arguments as a record, with the defaults of the options that are not given. -/
def Request.toValue (defaults : Value) (r : Request) : Value :=
  .record
    [("paths", .texts (r.paths.map Path.toString)), ("dict", .texts r.wordLists), ("no_def_dict", .bool r.noDefault),
      ("default_dict", textOr r.defaultList (fieldOr defaults "default_dictionary" (.text "builtin"))),
      ("language", textOr r.language (fieldOr defaults "language_code" (.text "en"))),
      ("exported_only", switchOr r.exportedOnly (fieldOr defaults "exported_only" (.bool false))),
      ("comments", switchOr r.comments (fieldOr defaults "check_comments" (.bool false))),
      ("possessives", switchOr r.possessives (fieldOr defaults "strip_possessives" (.bool false))),
      ("json", pathValue r.json), ("csv", pathValue r.csv), ("files_csv", pathValue r.filesCsv),
      ("log_level", textOr r.logLevel (fieldOr defaults "log_level" (.text "INFO")))]

end SpellLint.Command
