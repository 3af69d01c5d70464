import SpellLint.Text.Blank
import SpellLint.Text.Utf8

/-! # Character sets

The encodings that a text may be kept in, the names they go by, and their decoding.
-/

set_option autoImplicit false

namespace SpellLint.Text

/-- An encoding of texts. -/
inductive Charset where
  | ascii
  | latin1
  | latin9
  | windows1252
  | utf8
  /-- UTF-8 behind a byte order mark. -/
  | signedUtf8
  deriving DecidableEq, Repr

namespace Charset

/-! ## Names -/

/-- Letters, digits and points of a name in lower case; anything between them is one underscore. -/
def normalName (name : String) : String :=
  let kept (c : Char) : Bool := c.isAlphanum || c = '.'
  "_".intercalate ((fieldsBy (!kept ·) name.toList).map fun piece => String.ofList (piece.map Char.toLower))

/-- The names of an encoding in their normal form. -/
def names : Charset → List String
  | ascii => ["ascii", "646", "ansi_x3.4_1968", "ansi_x3_4_1968", "ansi_x3.4_1986", "cp367", "csascii", "ibm367",
      "iso646_us", "iso_646.irv_1991", "iso_ir_6", "us", "us_ascii"]
  | latin1 => ["latin_1", "8859", "cp819", "csisolatin1", "ibm819", "iso8859", "iso8859_1", "iso_8859_1",
      "iso_8859_1_1987", "iso_ir_100", "l1", "latin", "latin1"]
  | latin9 => ["iso8859_15", "iso_8859_15", "latin9", "l9"]
  | windows1252 => ["cp1252", "1252", "windows_1252"]
  | utf8 => ["utf_8", "u8", "utf", "utf8", "utf8_ucs2", "utf8_ucs4", "cp65001"]
  | signedUtf8 => ["utf_8_sig"]

/-- The encoding with a name. -/
def named (name : String) : Option Charset :=
  [ascii, latin1, latin9, windows1252, utf8, signedUtf8].find? (·.names.contains (normalName name))

/-! ## Decoding -/

/-- The characters of Latin-9 that are not those of Latin-1. -/
def latin9Char (b : UInt8) : Char :=
  if b = 0xA4 then '€' else if b = 0xA6 then 'Š' else if b = 0xA8 then 'š' else if b = 0xB4 then 'Ž'
  else if b = 0xB8 then 'ž' else if b = 0xBC then 'Œ' else if b = 0xBD then 'œ' else if b = 0xBE then 'Ÿ'
  else Char.ofNat b.toNat

/-- The characters of Windows-1252 from 128 to 159; zero where there is none. -/
def windowsTable : List Nat := [
  0x20AC, 0, 0x201A, 0x0192, 0x201E, 0x2026, 0x2020, 0x2021, 0x02C6, 0x2030, 0x0160, 0x2039, 0x0152, 0, 0x017D, 0,
  0, 0x2018, 0x2019, 0x201C, 0x201D, 0x2022, 0x2013, 0x2014, 0x02DC, 0x2122, 0x0161, 0x203A, 0x0153, 0, 0x017E,
  0x0178]

/-- A character of Windows-1252. -/
def windowsChar (b : UInt8) : Option Char :=
  if b < 0x80 ∨ 0xA0 ≤ b then some (Char.ofNat b.toNat)
  else
    match windowsTable.getD (b.toNat - 0x80) 0 with
    | 0 => none
    | n => some (Char.ofNat n)

/-- Decodes an encoding of one byte a character, from a position. -/
def decodeSingle (encoding : String) (fault : DecodeFault) (charOf : UInt8 → Option Char) :
    (position : Nat) → (done : List Char) → List UInt8 → Except DecodeError (List Char)
  | _, done, [] => .ok done.reverse
  | position, done, b :: rest =>
    match charOf b with
    | some c => decodeSingle encoding fault charOf (position + 1) (c :: done) rest
    | none => .error ⟨encoding, fault, position, 1, b⟩

/-- The bytes of the byte order mark. -/
def mark : List UInt8 := [0xEF, 0xBB, 0xBF]

/-- The bytes behind the byte order mark, if they start with it. -/
def unmarked (bytes : List UInt8) : List UInt8 :=
  if mark.isPrefixOf bytes then bytes.drop 3 else bytes

/-- Decodes bytes. Behind a byte order mark places are counted from the end of the mark. -/
def decode : Charset → List UInt8 → Except DecodeError (List Char)
  | ascii => decodeSingle "ascii" .notAscii (fun b => if b < 0x80 then some (Char.ofNat b.toNat) else none) 0 []
  | latin1 => decodeSingle "latin-1" .unassigned (fun b => some (Char.ofNat b.toNat)) 0 []
  | latin9 => decodeSingle "charmap" .unassigned (fun b => some (latin9Char b)) 0 []
  | windows1252 => decodeSingle "charmap" .unassigned windowsChar 0 []
  | utf8 => decodeUtf8
  | signedUtf8 => fun bytes => decodeUtf8 (unmarked bytes)

end Charset

end SpellLint.Text
