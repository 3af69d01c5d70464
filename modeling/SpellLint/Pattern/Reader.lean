import SpellLint.Pattern.Basic
import SpellLint.Pattern.Fault
import SpellLint.Text.Identifier
import SpellLint.Text.Numeral

/-! # Reading patterns

How a text in small letters is read as a pattern. A text is a list of signs: a sign is a character, or a backslash
with the character behind it. A backslash without one is a fault as soon as it is the next sign.
-/

set_option autoImplicit false

namespace SpellLint.Pattern

open SpellLint.Text

/-! ## Signs -/

/-- A sign of a pattern. -/
structure Sign where
  escaped : Bool
  char : Char
  deriving DecidableEq, Repr

namespace Sign

/-- The characters of a sign. -/
def text (t : Sign) : String := if t.escaped then "\\" ++ t.char.toString else t.char.toString

/-- How many characters a sign has. -/
def size (t : Sign) : Nat := if t.escaped then 2 else 1

/-- Whether a sign is a character of its own with a property. -/
def isPlain (p : Char → Bool) (t : Sign) : Bool := !t.escaped && p t.char

end Sign

/-- The signs of a text, and whether a lone backslash follows them. -/
def signs : List Char → List Sign × Bool
  | [] => ([], false)
  | '\\' :: [] => ([], true)
  | '\\' :: c :: rest => let (ts, lone) := signs rest; (⟨true, c⟩ :: ts, lone)
  | c :: rest => let (ts, lone) := signs rest; (⟨false, c⟩ :: ts, lone)

/-! ## Flags -/

/-- What can be switched on in a pattern. -/
inductive Flag where
  | ignoreCase
  | anyLine
  | dotAll
  | verbose
  | ascii
  | unicode
  deriving DecidableEq, Repr

namespace Flag

/-- The letter of a flag. -/
def letter : Flag → Char
  | ignoreCase => 'i'
  | anyLine => 'm'
  | dotAll => 's'
  | verbose => 'x'
  | ascii => 'a'
  | unicode => 'u'

/-- The flag of a sign. -/
def ofSign? (t : Sign) : Option Flag :=
  [ignoreCase, anyLine, dotAll, verbose, ascii, unicode].find? fun f => t.isPlain (· = f.letter)

/-- Whether a flag chooses between two meanings of the named classes. -/
def isKind (f : Flag) : Bool := f = ascii || f = unicode

/-- The flags inside a group that switches some on and some off. -/
def combine (flags added removed : List Flag) : List Flag :=
  let kept := if added.any isKind then flags.filter (!·.isKind) else flags
  (kept ++ added).filter (!removed.contains ·)

end Flag

/-! ## Readers -/

/-- How far a pattern has been read. -/
structure Reading where
  signs : List Sign
  /-- Whether a lone backslash follows the signs. -/
  lone : Bool
  /-- How many characters have been read. -/
  place : Nat
  /-- The widths of the groups so far; none for a group that is still open. -/
  groups : List (Option (Nat × Nat))
  /-- How many groups there were when the outermost look behind began. -/
  closedOff : Option Nat
  /-- The groups that conditions ask for, and where. -/
  conditions : List (Nat × Nat)
  flags : List Flag

/-- A reader of `α`. -/
abbrev Reader := StateT Reading (Except PatternError)

namespace Reader

variable {α : Type}

/-- A fault at a number of characters before the next sign. -/
def fail (fault : PatternFault) (offset : Nat) : Reader α := do
  throw ⟨fault, some ((← get).place - offset)⟩

/-- A fault at a place. -/
def failAt (fault : PatternFault) (place : Nat) : Reader α := throw ⟨fault, some place⟩

/-- A fault of the pattern as a whole. -/
def failWhole (fault : PatternFault) : Reader α := throw ⟨fault, none⟩

/-- The place of the next sign. -/
def place : Reader Nat := return (← get).place

/-- The next sign. -/
def peek : Reader (Option Sign) := return (← get).signs.head?

/-- Fails if a lone backslash comes next. -/
def checkLone : Reader Unit := do
  let s ← get
  if s.signs.isEmpty && s.lone then failAt .loneBackslash s.place

/-- Takes the next sign. -/
def take : Reader (Option Sign) := do
  let s ← get
  match s.signs with
  | [] => return none
  | t :: rest =>
    set { s with signs := rest, place := s.place + t.size }
    checkLone
    return some t

/-- Whether the next sign is a character. -/
def isNext (c : Char) : Reader Bool := return (← peek).any (·.isPlain (· = c))

/-- Takes the next sign if it is a character. -/
def accept (c : Char) : Reader Bool := do
  if ← isNext c then
    let _ ← take
    return true
  else return false

/-- Takes characters with a property, at most `limit`. -/
def takeWhile (p : Char → Bool) : (limit : Nat) → Reader (List Char)
  | 0 => return []
  | limit + 1 => do
    match ← peek with
    | some t =>
      if t.isPlain p then
        let _ ← take
        return t.char :: (← takeWhile p limit)
      else return []
    | none => return []

/-- How many signs are left. -/
def left : Reader Nat := return (← get).signs.length

/-! ## Escapes -/

/-- The characters that are written as a backslash and a letter. -/
def controls : List (Char × Nat) :=
  [('a', 7), ('b', 8), ('f', 12), ('n', 10), ('r', 13), ('t', 9), ('v', 11), ('\\', 92)]

/-- The class of characters that a letter names. -/
def classOf? (ascii : Bool) : Char → Option CharItem
  | 'd' => some (.digit ascii)
  | 's' => some (.blank ascii)
  | 'w' => some (.word ascii)
  | _ => none

/-- A character that is written with so many hexadecimal digits. -/
def hexEscape (letter : Char) (count : Nat) : Reader Nat := do
  let ds ← takeWhile isHexDigit count
  let text := String.ofList ('\\' :: letter :: ds)
  if ds.length ≠ count then fail (.incompleteEscape text) text.length
  return numberOf 16 ds

/-- The character of octal digits. -/
def octalEscape (ds : List Char) : Reader Nat := do
  let text := String.ofList ('\\' :: ds)
  let n := numberOf 8 ds
  if n > 255 then fail (.octalTooLarge text) text.length
  return n

/-- A character that stands for itself behind a backslash; letters do not. -/
def plainEscape (c : Char) : Reader Nat := do
  if c.isAlpha then fail (.badEscape (Sign.text ⟨true, c⟩)) 2
  return c.toNat

/-- An escape among the members of a set. -/
def memberEscape (flags : List Flag) (c : Char) : Reader CharItem := do
  match controls.lookup c, classOf? (flags.contains .ascii) c with
  | some n, _ => return .only n
  | none, some item => return item
  | none, none =>
    if c = 'x' then return .only (← hexEscape c 2)
    else if c = 'u' then return .only (← hexEscape c 4)
    else if isOctalDigit c then return .only (← octalEscape (c :: (← takeWhile isOctalDigit 2)))
    else if c.isDigit then fail (.badEscape (Sign.text ⟨true, c⟩)) 2
    else return .only (← plainEscape c)

/-! ## Sets -/

/-- The code of a member that is one character. -/
def codeOf? : CharItem → Option Nat
  | .range first last => if first = last then some first else none
  | _ => none

/-- A member of a set: the sign that it starts with. -/
def member (flags : List Flag) (t : Sign) : Reader CharItem :=
  if t.escaped then memberEscape flags t.char else return .only t.char.toNat

/-- The next sign of a set that begins at a place. -/
def signOfSet (start : Nat) : Reader Sign := do
  match ← take with
  | some t => return t
  | none => failAt .unterminatedSet start

/-- The members of a set that begins at a place, up to its bracket. `fuel` bounds the number of signs. -/
def members (flags : List Flag) (start : Nat) : (fuel : Nat) → (before : List CharItem) → Reader (List CharItem)
  | 0, before => return before
  | fuel + 1, before => do
    let t ← signOfSet start
    if t.isPlain (· = ']') && !before.isEmpty then return before
    let first ← member flags t
    if !(← accept '-') then members flags start fuel (before ++ [first])
    else
      let u ← signOfSet start
      if u.isPlain (· = ']') then return before ++ [first, .only '-'.toNat]
      let last ← member flags u
      match codeOf? first, codeOf? last with
      | some a, some b =>
        if b < a then fail (.badRange t.text u.text) (t.size + 1 + u.size)
        else members flags start fuel (before ++ [.range a b])
      | _, _ => fail (.badRange t.text u.text) (t.size + 1 + u.size)

/-! ## Items -/

/-- What an item of a sequence is: it decides whether the item can be repeated. -/
inductive ItemKind where
  | plain
  | edge
  | repetition
  deriving DecidableEq

/-- An item of a sequence. -/
structure Item where
  pattern : Pattern
  kind : ItemKind

/-- An item that can be repeated. -/
def Item.plain (p : Pattern) : Item := ⟨p, .plain⟩

/-- An item that is an edge. -/
def Item.edge (e : Edge) : Item := ⟨.edge e, .edge⟩

/-- One character of a set. -/
def Item.ofSet (flags : List Flag) (items : List CharItem) (others : Bool) : Item :=
  .plain (.one ⟨items, others, flags.contains .ignoreCase⟩)

/-- One character. -/
def Item.ofCode (flags : List Flag) (code : Nat) : Item := .ofSet flags [.only code] false

/-- Fails unless a group can be asked for from within a look behind. -/
def checkLookBehind (number : Nat) : Reader Unit := do
  let s ← get
  match s.closedOff with
  | none => return
  | some limit =>
    match s.groups[number - 1]? with
    | some (some _) => if number ≥ limit then fail .groupInSameLookBehind 0
    | _ => fail .openGroup 0

/-- The text of a group once more; `size` is how many characters the escape has. -/
def groupAgain (flags : List Flag) (number size : Nat) : Reader Item := do
  match (← get).groups[number - 1]? with
  | none => fail (.noSuchGroup number) (size - 1)
  | some none => fail .openGroup size
  | some (some width) =>
    checkLookBehind number
    return .plain (.again number (flags.contains .ignoreCase) width)

/-- An escape that starts with a digit above zero: three octal digits are a character, all else is a group. -/
def digitEscape (flags : List Flag) (c : Char) : Reader Item := do
  let more ← takeWhile Char.isDigit 1
  let ds := c :: more
  if !more.isEmpty && ds.all isOctalDigit then
    let third ← takeWhile isOctalDigit 1
    if !third.isEmpty then return .ofCode flags (← octalEscape (ds ++ third))
  groupAgain flags (numberOf 10 ds) (ds.length + 1)

/-- An escape in a sequence. -/
def escapeItem (flags : List Flag) (c : Char) : Reader Item := do
  let ascii := flags.contains .ascii
  if c = 'b' then return .edge (.word ascii)
  match classOf? ascii c, controls.lookup c with
  | some item, _ => return .ofSet flags [item] false
  | none, some n => return .ofCode flags n
  | none, none =>
    if c = 'x' then return .ofCode flags (← hexEscape c 2)
    else if c = 'u' then return .ofCode flags (← hexEscape c 4)
    else if c = '0' then return .ofCode flags (numberOf 8 (← takeWhile isOctalDigit 2))
    else if c.isDigit then digitEscape flags c
    else return .ofCode flags (← plainEscape c)

/-- A set; its bracket has been taken. -/
def setItem (flags : List Flag) : Reader Item := do
  let start := (← place) - 1
  let others ← accept '^'
  return .ofSet flags (← members flags start ((← left) + 1) []) others

/-! ## Repetitions -/

/-- The bounds of a repetition between braces, the first of which has been taken; none if the brace stands for
itself. -/
def bounds : Reader (Option (Nat × Option Nat)) := do
  let opened ← get
  if ← isNext '\x7d' then return none
  let least ← takeWhile Char.isDigit opened.signs.length
  let ranged ← accept ','
  let most ← if ranged then takeWhile Char.isDigit opened.signs.length else pure least
  if !(← accept '\x7d') then
    set opened
    return none
  let lo := numberOf 10 least
  if lo ≥ endless then failWhole .countTooLarge
  if most.isEmpty then return some (lo, none)
  let hi := numberOf 10 most
  if hi ≥ endless then failWhole .countTooLarge
  if hi < lo then failAt .leastAboveMost opened.place
  return some (lo, some hi)

/-- The bounds of a repetition sign that has been taken; none if it stands for itself. -/
def boundsOf (c : Char) : Reader (Option (Nat × Option Nat)) :=
  if c = '?' then return some (0, some 1)
  else if c = '*' then return some (0, none)
  else if c = '+' then return some (1, none)
  else bounds

/-- How eagerly a repetition is tried. -/
def eagerness : Reader Eagerness := do
  if ← accept '?' then return .lazy
  else if ← accept '+' then return .possessive
  else return .greedy

/-- The repetition of the last item; `start` is the place of the repetition sign. -/
def repetition (start least : Nat) (most : Option Nat) (last : Option Item) : Reader Item := do
  match last with
  | none => failAt .nothingToRepeat start
  | some item =>
    if item.kind = .edge then failAt .nothingToRepeat start
    if item.kind = .repetition then failAt .multipleRepeat start
    return ⟨.repeated least most (← eagerness) item.pattern, .repetition⟩

/-! ## Flags inside a pattern -/

/-- What is wrong with a sign that is no flag. -/
def noFlag (t : Sign) (other : PatternFault) : PatternFault :=
  if t.isPlain fun c => isAlphanumeric c && !isDigit c then .unknownFlag else other

/-- The flags that are switched on, and the sign behind them. -/
def addedFlags : (fuel : Nat) → (flag : Flag) → (before : List Flag) → Reader (List Flag × Char)
  | 0, _, before => return (before, ')')
  | fuel + 1, flag, before => do
    let added := before ++ [flag]
    if flag.isKind && added.any (fun f => f.isKind && f ≠ flag) then fail .incompatibleFlags 0
    match ← take with
    | none => fail .missingFlagEnd 0
    | some t =>
      if t.isPlain [')', '-', ':'].contains then return (added, t.char)
      match Flag.ofSign? t with
      | none => fail (noFlag t .missingFlagEnd) t.size
      | some next => addedFlags fuel next added

/-- The flags that are switched off. -/
def removedFlags : (fuel : Nat) → (flag : Flag) → (before : List Flag) → Reader (List Flag)
  | 0, _, before => return before
  | fuel + 1, flag, before => do
    if flag.isKind then fail .unremovableFlags 0
    match ← take with
    | none => fail .missingColon 0
    | some t =>
      if t.isPlain (· = ':') then return before ++ [flag]
      match Flag.ofSign? t with
      | none => fail (noFlag t .missingColon) t.size
      | some next => removedFlags fuel next (before ++ [flag])

/-- The flags at the start of a group, the first of which, or a minus, has been taken: those that are switched on
and off in the group, or none if they hold for the whole pattern. -/
def groupFlags (first : Option Flag) : Reader (Option (List Flag × List Flag)) := do
  let fuel := (← left) + 1
  let (added, stop) ← match first with
    | none => pure ([], '-')
    | some flag => addedFlags fuel flag []
  if stop = ')' then
    modify fun s => { s with flags := s.flags ++ added }
    return none
  let removed ← if stop = '-' then do
      match ← take with
      | none => fail .missingFlag 0
      | some t =>
        match Flag.ofSign? t with
        | none => fail (noFlag t .missingFlag) t.size
        | some flag => removedFlags fuel flag []
    else pure []
  if added.any removed.contains then fail .contradictoryFlags 1
  return some (added, removed)

/-! ## Groups -/

/-- What a group is. -/
inductive GroupKind where
  | capturing
  | plain (added removed : List Flag)
  | atomic
  | look (forward wanted : Bool)
  | condition (number : Nat)
  | comment
  | globalFlags

/-- Skips a comment that begins at a place, with its bracket. -/
def skipComment (start : Nat) : (fuel : Nat) → Reader Unit
  | 0 => return
  | fuel + 1 => do
    match ← take with
    | none => failAt .unterminatedComment start
    | some t => if t.isPlain (· = ')') then return else skipComment start fuel

/-- The name that a condition asks for, with the bracket behind it. -/
def conditionName : (fuel : Nat) → (before : String) → Reader String
  | 0, before => return before
  | fuel + 1, before => do
    match ← take with
    | none => if before = "" then fail .missingName 0 else fail .unterminatedName before.length
    | some t =>
      if t.isPlain (· = ')') then if before = "" then fail .missingName 1 else return before
      else conditionName fuel (before ++ t.text)

/-- Whether a text can be the name of a group. -/
def isName (name : String) : Bool :=
  match name.toList with
  | [] => false
  | c :: cs => isIdentifierStart c && cs.all isIdentifierPart

/-- The group that a condition asks for. -/
def conditionGroup : Reader Nat := do
  let name ← conditionName ((← left) + 1) ""
  if isName name then fail (.noSuchName name) (name.length + 1)
  if !name.toList.all Char.isDigit then fail (.badName name) (name.length + 1)
  let number := numberOf 10 name.toList
  if number = 0 then fail .noGroupNumber (name.length + 1)
  let asked := (← place) - name.length - 1
  modify fun s => { s with conditions := s.conditions ++ [(number, asked)] }
  checkLookBehind number
  return number

/-- What the group is that begins at a place; its bracket has been taken. -/
def groupKind (start : Nat) : Reader GroupKind := do
  if !(← accept '?') then return .capturing
  match ← take with
  | none => fail .unexpectedEnd 0
  | some t =>
    match t.escaped, t.char with
    | false, ':' => return .plain [] []
    | false, '#' =>
      skipComment start ((← left) + 1)
      return .comment
    | false, '=' => return .look true true
    | false, '!' => return .look true false
    | false, '<' =>
      match ← take with
      | none => fail .unexpectedEnd 0
      | some u =>
        if u.isPlain (· = '=') then return .look false true
        else if u.isPlain (· = '!') then return .look false false
        else fail (.unknownExtension ("<" ++ u.text)) (u.size + 2)
    | false, '(' => return .condition (← conditionGroup)
    | false, '>' => return .atomic
    | _, _ =>
      match Flag.ofSign? t with
      | none =>
        if t.isPlain (· = '-') then
          match ← groupFlags none with
          | some (added, removed) => return .plain added removed
          | none => return .globalFlags
        else fail (.unknownExtension t.text) (t.size + 1)
      | some flag =>
        match ← groupFlags (some flag) with
        | some (added, removed) => return .plain added removed
        | none => return .globalFlags

/-- Closes the group that begins at a place. -/
def closeGroup (start : Nat) : Reader Unit := do
  if !(← accept ')') then failAt .unterminatedGroup start

/-- Opens a capturing group and gives its number. -/
def openCapture : Reader Nat := do
  let n := (← get).groups.length + 1
  modify fun s => { s with groups := s.groups ++ [none] }
  return n

/-- Closes a capturing group. -/
def closeCapture (number : Nat) (p : Pattern) : Reader Unit :=
  modify fun s => { s with groups := s.groups.set (number - 1) (some p.width) }

/-- The pattern of items, the last one first. -/
def sequenceOf (items : List Item) : Pattern :=
  items.foldl (fun p item => if p matches .empty then item.pattern else .seq item.pattern p) .empty

/-- Whether a sign is a blank of a pattern that is laid out. -/
def isLayout (t : Sign) : Bool := t.isPlain [' ', '\t', '\n', '\r', '\x0b', '\x0c'].contains

/-- Skips the rest of a line. -/
def skipLine : (fuel : Nat) → Reader Unit
  | 0 => return
  | fuel + 1 => do
    match ← take with
    | none => return
    | some t => if t.isPlain (· = '\n') then return else skipLine fuel

mutual

/-- Alternatives. `outermost` tells that they are in no group, and `first` that nothing has been read. -/
def alternatives (fuel : Nat) (flags : List Flag) (outermost first : Bool) : Reader Pattern :=
  match fuel with
  | 0 => return .empty
  | fuel + 1 => do
    let whole := (← get).flags
    let p ← sequence fuel (if outermost then whole else flags) first []
    if ← accept '|' then return .alt p (← alternatives fuel flags outermost false) else return p

/-- A sequence of items, behind those that have been read, the last one first. -/
def sequence (fuel : Nat) (flags : List Flag) (first : Bool) (before : List Item) : Reader Pattern :=
  match fuel with
  | 0 => return sequenceOf before
  | fuel + 1 => do
    match ← peek with
    | none => return sequenceOf before
    | some t =>
      if t.isPlain ['|', ')'].contains then return sequenceOf before
      let start ← place
      let _ ← take
      let verbose := flags.contains .verbose
      if verbose && isLayout t then sequence fuel flags first before
      else if verbose && t.isPlain (· = '#') then
        skipLine ((← left) + 1)
        sequence fuel flags first before
      else if t.escaped then sequence fuel flags first ((← escapeItem flags t.char) :: before)
      else
        match t.char with
        | '.' =>
          let s : List CharItem := if flags.contains .dotAll then [] else [.only '\n'.toNat]
          sequence fuel flags first (.ofSet flags s true :: before)
        | '^' => sequence fuel flags first (.edge (.start (flags.contains .anyLine)) :: before)
        | '$' => sequence fuel flags first (.edge (.stop (flags.contains .anyLine)) :: before)
        | '[' => sequence fuel flags first ((← setItem flags) :: before)
        | '(' =>
          match ← groupKind start with
          | .comment => sequence fuel flags first before
          | .globalFlags =>
            if !first || !before.isEmpty then failAt .lateFlags start
            let whole := (← get).flags
            sequence fuel whole first before
          | kind => sequence fuel flags first ((← groupItem fuel flags start kind) :: before)
        | c =>
          if ['*', '+', '?', '\x7b'].contains c then
            match ← boundsOf c with
            | none => sequence fuel flags first (.ofCode flags c.toNat :: before)
            | some (least, most) =>
              sequence fuel flags first ((← repetition start least most before.head?) :: before.drop 1)
          else sequence fuel flags first (.ofCode flags c.toNat :: before)

/-- The rest of a group that begins at a place. -/
def groupItem (fuel : Nat) (flags : List Flag) (start : Nat) (kind : GroupKind) : Reader Item :=
  match fuel with
  | 0 => return .plain .empty
  | fuel + 1 => do
    match kind with
    | .capturing =>
      let n ← openCapture
      let p ← alternatives fuel flags false false
      closeGroup start
      closeCapture n p
      return .plain (.group n p)
    | .atomic =>
      let p ← alternatives fuel flags false false
      closeGroup start
      return .plain (.atomic p)
    | .look forward wanted =>
      let outer := (← get).closedOff
      if !forward && outer.isNone then modify fun s => { s with closedOff := some (s.groups.length + 1) }
      let p ← alternatives fuel flags false false
      if !forward && outer.isNone then modify fun s => { s with closedOff := none }
      closeGroup start
      return .plain (if forward then .ahead wanted p else .behind wanted p)
    | .condition n =>
      let p ← sequence fuel flags false []
      let q ← if ← accept '|' then sequence fuel flags false [] else pure .empty
      if ← isNext '|' then fail .manyBranches 0
      closeGroup start
      return .plain (.ifGroup n p q)
    | .plain added removed =>
      let p ← alternatives fuel (Flag.combine flags added removed) false false
      closeGroup start
      return .plain p
    | _ => return .plain .empty

end

/-! ## Whole patterns -/

/-- The pattern of a whole text. -/
def whole : Reader Pattern := do
  checkLone
  let p ← alternatives (3 * (← left) + 3) [] true true
  let s ← get
  if s.flags.contains .ascii && s.flags.contains .unicode then failWhole .asciiAndUnicode
  if !s.signs.isEmpty then failAt .unbalanced s.place
  match s.conditions.find? fun c => s.groups.length < c.1 with
  | some (number, place) => failAt (.noSuchGroup number) place
  | none => pure ()
  if !p.looksBackFixed then failWhole .looseLookBehind
  return p

end Reader

/-- The pattern of a text in small letters. -/
def ofText (text : String) : Except PatternError Pattern :=
  let (ts, lone) := signs text.toList
  (Reader.whole.run ⟨ts, lone, 0, [], none, [], []⟩).map (·.1)

end SpellLint.Pattern
