import SpellLint.Text.Quoted

/-! # Values

The details of a result and the settings of a run: plain data without a fixed shape. Records keep their fields in
order.
-/

set_option autoImplicit false

namespace SpellLint

open SpellLint.Text

/-- A value. A decimal is its digits, read as a whole number, with so many of them behind the point. -/
inductive Value where
  | null
  | bool (b : Bool)
  | int (n : Int)
  | decimal (digits : Int) (places : Nat)
  | text (s : String)
  | list (items : List Value)
  | record (fields : List (String × Value))
  deriving Inhabited

namespace Value

/-- A list of texts. -/
def texts (items : List String) : Value := list (items.map text)

/-- The text of a value that is one. -/
def text? : Value → Option String
  | text s => some s
  | _ => none

/-- The truth value of a value that is one. -/
def bool? : Value → Option Bool
  | bool b => some b
  | _ => none

/-- The field of a record; `null` if there is none. -/
def get (v : Value) (name : String) : Value :=
  match v with
  | record fields => ((fields.find? (·.1 == name)).map (·.2)).getD null
  | _ => null

/-- Whether a record has a field. -/
def has (v : Value) (name : String) : Bool :=
  match v with
  | record fields => fields.any (·.1 == name)
  | _ => false

/-- A record with a field set; a new field comes last. -/
def put (v : Value) (name : String) (field : Value) : Value :=
  match v with
  | record fields =>
    if v.has name then record (fields.map fun f => if f.1 == name then (name, field) else f)
    else record (fields ++ [(name, field)])
  | _ => record [(name, field)]

/-- Whether a value counts as true: it is neither null, nor zero, nor empty. A decimal below half of the least
positive number of double precision is zero. -/
def holds : Value → Bool
  | null => false
  | bool b => b
  | int n => n ≠ 0
  | decimal digits places => Nat.pow 10 places < digits.natAbs * Nat.pow 2 1075
  | text s => s ≠ ""
  | list items => !items.isEmpty
  | record fields => !fields.isEmpty

/-- The number of zeros at the end of a number above zero, at most `limit`. -/
def endingZeros : (limit n : Nat) → Nat
  | 0, _ => 0
  | limit + 1, n => if n % 10 = 0 then endingZeros limit (n / 10) + 1 else 0

/-- The text of a decimal with at most as many digits as double precision keeps: positional from a ten-thousandth
up to ten to the sixteenth, with one digit behind the point at least, and with an exponent elsewhere. -/
def decimalText (digits : Int) (places : Nat) : String :=
  let sign := if digits < 0 then "-" else ""
  if digits = 0 then "0.0"
  else
    let zeros := endingZeros (toString digits.natAbs).length digits.natAbs
    let ds := (toString (digits.natAbs / Nat.pow 10 zeros)).toList
    let point : Int := ds.length + zeros - places
    let body :=
      if -4 < point ∧ point ≤ 16 then
        if point ≤ 0 then "0." ++ String.ofList (List.replicate (-point).toNat '0' ++ ds)
        else
          let whole := ds.take point.toNat ++ List.replicate (point.toNat - ds.length) '0'
          let rest := ds.drop point.toNat
          String.ofList whole ++ "." ++ (if rest.isEmpty then "0" else String.ofList rest)
      else
        let exponent := point - 1
        let tail := if ds.length ≤ 1 then "" else "." ++ String.ofList (ds.drop 1)
        let size := toString exponent.natAbs
        String.ofList (ds.take 1) ++ tail ++ (if exponent < 0 then "e-" else "e+") ++
          (if size.length < 2 then "0" ++ size else size)
    sign ++ body

/-- The word for a truth value. -/
def boolWord (b : Bool) : String := if b then "True" else "False"

mutual

/-- A value as part of a message: texts are quoted. -/
def quoted : Value → String
  | null => "None"
  | bool b => boolWord b
  | int n => toString n
  | decimal digits places => decimalText digits places
  | text s => Text.quoted s
  | list items => "[" ++ ", ".intercalate (quotedItems items) ++ "]"
  | record fields => "\x7b" ++ ", ".intercalate (quotedFields fields) ++ "\x7d"

/-- The items of a list as parts of a message. -/
def quotedItems : List Value → List String
  | [] => []
  | v :: vs => quoted v :: quotedItems vs

/-- The fields of a record as parts of a message. -/
def quotedFields : List (String × Value) → List String
  | [] => []
  | (name, v) :: fields => (Text.quoted name ++ ": " ++ quoted v) :: quotedFields fields

end

/-- A value on its own: a text is shown as it is. -/
def shown : Value → String
  | text s => s
  | v => quoted v

end Value

end SpellLint
