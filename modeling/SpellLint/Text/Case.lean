import SpellLint.Text.CaseTable

/-! # Lower and upper case

Full case conversion of a text. A letter may become several letters, and a capital sigma becomes the final form
at the end of a word: after a cased letter and not before one, where marks, modifiers and apostrophes are
looked through.
-/

set_option autoImplicit false

namespace SpellLint.Text

/-- Whether casing looks through this character. -/
def isCaseIgnorable (c : Char) : Bool := caseIgnorable.mem c.toNat

/-- Whether the first character that casing does not look through has a case. -/
def meetsCased (cs : List Char) : Bool :=
  match cs.dropWhile isCaseIgnorable with
  | c :: _ => cased.mem c.toNat
  | [] => false

/-- The lower case form of one character that is no capital sigma. -/
def lowerChar (c : Char) : List Char :=
  if c = 'İ' then ['i', '\u0307']
  else match moveBy lowerRuns c.toNat with
    | some n => [Char.ofNat n]
    | none => [c]

/-- The lower case form of `cs`, of which `before`, latest character first, stands in front. -/
def lowerAfter : (before cs : List Char) → List Char
  | _, [] => []
  | before, c :: cs =>
    (if c = 'Σ' then [if meetsCased before && !meetsCased cs then 'ς' else 'σ'] else lowerChar c) ++
      lowerAfter (c :: before) cs

/-- The lower case form of a text. -/
def lowerChars (cs : List Char) : List Char :=
  lowerAfter [] cs

/-- The upper case form of one character. -/
def upperChar (c : Char) : List Char :=
  match moveBy upperRuns c.toNat with
  | some n => [Char.ofNat n]
  | none => (lookupSorted upperExpansions c.toNat).getD [c]

/-- The upper case form of a text. -/
def upperChars (cs : List Char) : List Char :=
  cs.flatMap upperChar

/-- The lower case form of a text. -/
def lower (s : String) : String :=
  String.ofList (lowerChars s.toList)

/-- The upper case form of a text. -/
def upper (s : String) : String :=
  String.ofList (upperChars s.toList)

end SpellLint.Text
