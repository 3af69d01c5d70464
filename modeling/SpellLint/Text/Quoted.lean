import SpellLint.Text.Printable

/-! # Quoted texts

How a text is shown inside a message: between quotes, with everything escaped that a reader could not see. Single
quotes are used, unless the text holds a single quote and no double quote.
-/

set_option autoImplicit false

namespace SpellLint.Text

/-- A number in hexadecimal, with zeros in front up to `width` digits. -/
def hexadecimal (width n : Nat) : String :=
  let digits := Nat.toDigits 16 n
  String.ofList (List.replicate (width - digits.length) '0' ++ digits)

/-- A character inside quotes. -/
def escaped (quote c : Char) : String :=
  if c = quote ∨ c = '\\' then String.ofList ['\\', c]
  else if c = '\n' then "\\n"
  else if c = '\r' then "\\r"
  else if c = '\t' then "\\t"
  else if isPrintable c then c.toString
  else if c.toNat < 0x100 then "\\x" ++ hexadecimal 2 c.toNat
  else if c.toNat < 0x10000 then "\\u" ++ hexadecimal 4 c.toNat
  else "\\U" ++ hexadecimal 8 c.toNat

/-- The quote that a text is put between. -/
def quoteFor (s : String) : Char :=
  if s.toList.contains '\'' && !s.toList.contains '"' then '"' else '\''

/-- A text between quotes. -/
def quoted (s : String) : String :=
  let quote := (quoteFor s).toString
  quote ++ String.join (s.toList.map (escaped (quoteFor s))) ++ quote

end SpellLint.Text
