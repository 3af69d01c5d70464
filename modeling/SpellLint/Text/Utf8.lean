import SpellLint.Text.Quoted

/-! # Decoding bytes

Bytes that are no text are refused with the place, the length and the reason of the first fault. In UTF-8 a fault
ends before the first byte that cannot continue the character.
-/

set_option autoImplicit false

namespace SpellLint.Text

/-- Why bytes are no text. -/
inductive DecodeFault where
  | start
  | continuation
  | cutShort
  | notAscii
  | unassigned
  deriving DecidableEq, Repr

/-- What is said about a fault. -/
def DecodeFault.text : DecodeFault → String
  | start => "invalid start byte"
  | continuation => "invalid continuation byte"
  | cutShort => "unexpected end of data"
  | notAscii => "ordinal not in range(128)"
  | unassigned => "character maps to <undefined>"

/-- A fault in bytes under an encoding: where it starts, how many bytes it covers, and the first of them. -/
structure DecodeError where
  encoding : String
  fault : DecodeFault
  position : Nat
  count : Nat
  first : UInt8
  deriving DecidableEq, Repr

/-- What is said about bytes that are no text. -/
def DecodeError.message (e : DecodeError) : String :=
  let bytes :=
    if e.count = 1 then "byte 0x" ++ hexadecimal 2 e.first.toNat ++ s!" in position {e.position}"
    else s!"bytes in position {e.position}-{e.position + e.count - 1}"
  "'" ++ e.encoding ++ "' codec can't decode " ++ bytes ++ ": " ++ e.fault.text

/-- A character that has been started: how many bytes it still needs, between which bounds the next one lies, its
number so far, its first byte and the count of its bytes. -/
structure Started where
  needed : Nat
  low : UInt8
  high : UInt8
  value : Nat
  first : UInt8
  count : Nat

/-- The character that a byte above 127 starts. -/
def Started.of (b : UInt8) : Option Started :=
  if b < 0xC2 then none
  else if b < 0xE0 then some ⟨1, 0x80, 0xBF, b.toNat - 0xC0, b, 1⟩
  else if b < 0xF0 then
    some ⟨2, if b = 0xE0 then 0xA0 else 0x80, if b = 0xED then 0x9F else 0xBF, b.toNat - 0xE0, b, 1⟩
  else if b < 0xF5 then
    some ⟨3, if b = 0xF0 then 0x90 else 0x80, if b = 0xF4 then 0x8F else 0xBF, b.toNat - 0xF0, b, 1⟩
  else none

/-- The character with one more byte. -/
def Started.next (s : Started) (b : UInt8) : Started :=
  ⟨s.needed - 1, 0x80, 0xBF, s.value * 64 + (b.toNat - 0x80), s.first, s.count + 1⟩

/-- Decodes UTF-8 from a position; `done` are the characters so far, the last one first. -/
def decodeUtf8From :
    (position : Nat) → (started : Option Started) → (done : List Char) → List UInt8 → Except DecodeError (List Char)
  | _, none, done, [] => .ok done.reverse
  | position, some s, _, [] => .error ⟨"utf-8", .cutShort, position - s.count, s.count, s.first⟩
  | position, none, done, b :: rest =>
    if b < 0x80 then decodeUtf8From (position + 1) none (Char.ofNat b.toNat :: done) rest
    else
      match Started.of b with
      | some s => decodeUtf8From (position + 1) (some s) done rest
      | none => .error ⟨"utf-8", .start, position, 1, b⟩
  | position, some s, done, b :: rest =>
    if s.low ≤ b ∧ b ≤ s.high then
      let t := s.next b
      if t.needed = 0 then decodeUtf8From (position + 1) none (Char.ofNat t.value :: done) rest
      else decodeUtf8From (position + 1) (some t) done rest
    else .error ⟨"utf-8", .continuation, position - s.count, s.count, s.first⟩

/-- Decodes UTF-8. -/
def decodeUtf8 (bytes : List UInt8) : Except DecodeError (List Char) := decodeUtf8From 0 none [] bytes

/-- Every line end becomes a line feed. -/
def unifyLineEnds (cs : List Char) : List Char :=
  (cs.foldr
    (fun c (rest : Option Char × List Char) =>
      (some c, if c = '\r' then (if rest.1 = some '\n' then rest.2 else '\n' :: rest.2) else c :: rest.2))
    (none, [])).2

end SpellLint.Text
