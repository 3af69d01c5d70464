import SpellLint.Value

/-! # Values as JSON

Records and lists are laid out over lines, two blanks deeper at every level; empty ones stay on one line. Only
what has to be escaped is: quotes, backslashes and control characters, and slashes where JSON is put into a page.
-/

set_option autoImplicit false

namespace SpellLint.Value

open SpellLint.Text

/-- How JSON is written. -/
structure JsonForm where
  /-- What stands between a name and its value. -/
  colon : String
  escapesSlash : Bool
  deriving DecidableEq, Repr

/-- The form of files. -/
def JsonForm.file : JsonForm := ⟨": ", false⟩

/-- The form of what a page offers. -/
def JsonForm.page : JsonForm := ⟨":", true⟩

/-- A character inside a JSON string. -/
def jsonEscaped (form : JsonForm) (c : Char) : String :=
  if c = '/' then if form.escapesSlash then "\\/" else "/"
  else if c = '"' then "\\\""
  else if c = '\\' then "\\\\"
  else if c = '\n' then "\\n"
  else if c = '\r' then "\\r"
  else if c = '\t' then "\\t"
  else if c = '\x08' then "\\b"
  else if c = '\x0c' then "\\f"
  else if c.toNat < 0x20 then "\\u" ++ hexadecimal 4 c.toNat
  else c.toString

/-- A JSON string. -/
def jsonText (form : JsonForm) (s : String) : String :=
  "\"" ++ String.join (s.toList.map (jsonEscaped form)) ++ "\""

/-- The start of a line at a depth. -/
def lineAt (depth : Nat) : String :=
  "\n" ++ String.ofList (List.replicate (2 * depth) ' ')

/-- Items between brackets, one a line. -/
def jsonBlock (opening closing : String) (depth : Nat) (items : List String) : String :=
  if items.isEmpty then opening ++ closing
  else
    opening ++ lineAt (depth + 1) ++ ("," ++ lineAt (depth + 1)).intercalate items ++ lineAt depth ++ closing

mutual

/-- A value as JSON at a depth. -/
def jsonAt (form : JsonForm) (depth : Nat) : Value → String
  | null => "null"
  | bool b => if b then "true" else "false"
  | int n => toString n
  | decimal digits places => decimalText digits places
  | text s => jsonText form s
  | list items => jsonBlock "[" "]" depth (jsonItems form (depth + 1) items)
  | record fields => jsonBlock "\x7b" "\x7d" depth (jsonFields form (depth + 1) fields)

/-- The items of a list. -/
def jsonItems (form : JsonForm) (depth : Nat) : List Value → List String
  | [] => []
  | v :: vs => jsonAt form depth v :: jsonItems form depth vs

/-- The fields of a record. -/
def jsonFields (form : JsonForm) (depth : Nat) : List (String × Value) → List String
  | [] => []
  | (name, v) :: fields => (jsonText form name ++ form.colon ++ jsonAt form depth v) :: jsonFields form depth fields

end

/-- A value as JSON. -/
def json (form : JsonForm) (v : Value) : String := jsonAt form 0 v

end SpellLint.Value
