import SpellLint.Source.Number
import SpellLint.Text.CharacterName

/-! # Escapes in string literals

A backslash in a string literal gives the character behind it a meaning: a control character, a character by its
number or its name, or nothing at the end of a line. An escape that means nothing stands for itself; one that
breaks off makes the literal malformed.
-/

set_option autoImplicit false

namespace SpellLint.Source

open SpellLint.Text

/-- The character of a number. Halves of surrogate pairs are no characters and become the replacement character. -/
def charOfNumber (n : Nat) : Option Char :=
  if n > 0x10FFFF then none
  else if 0xD800 ≤ n ∧ n ≤ 0xDFFF then some '\uFFFD'
  else some (Char.ofNat n)

/-- The control character that a letter or a sign behind a backslash stands for. -/
def simpleEscape (c : Char) : Option Char :=
  match c with
  | '\\' => some '\\'
  | '\'' => some '\''
  | '"' => some '"'
  | 'a' => some '\x07'
  | 'b' => some '\x08'
  | 'f' => some '\x0c'
  | 'n' => some '\n'
  | 'r' => some '\r'
  | 't' => some '\t'
  | 'v' => some '\x0b'
  | _ => none

/-- How many hexadecimal digits follow a letter behind a backslash. -/
def hexEscape (c : Char) : Option Nat :=
  if c = 'x' then some 2 else if c = 'u' then some 4 else if c = 'U' then some 8 else none

/-- The next piece of a literal: the characters that it stands for, latest first, and how many characters it
takes behind its first; `none` if it is malformed. -/
def nextPiece (c : Char) (cs : List Char) : Option (List Char × Nat) :=
  if c ≠ '\\' then some ([c], 0)
  else
    match cs with
    | [] => some (['\\'], 0)
    | d :: ds =>
      if d = '\n' then some ([], 1)
      else
        match simpleEscape d with
        | some e => some ([e], 1)
        | none =>
          if isOctalDigit d then
            let digits := (cs.take 3).takeWhile isOctalDigit
            (charOfNumber (numberOf 8 digits)).map fun e => ([e], digits.length)
          else
            match hexEscape d with
            | some n =>
              let digits := ds.take n
              if digits.length = n && digits.all isHexDigit then
                (charOfNumber (numberOf 16 digits)).map fun e => ([e], n + 1)
              else none
            | none =>
              if d = 'N' then
                match ds with
                | '\x7b' :: name =>
                  let letters := name.takeWhile (· ≠ '\x7d')
                  if letters.length < name.length then
                    (characterNamed (String.ofList letters)).map fun e => ([e], letters.length + 3)
                  else none
                | _ => none
              else some ([d, '\\'], 1)

/-- The rest of a literal behind `read`, which is in reverse; `skip` of its characters are done with. -/
def unescapeFrom (read : List Char) : (skip : Nat) → List Char → Option (List Char)
  | _, [] => some read.reverse
  | skip + 1, _ :: cs => unescapeFrom read skip cs
  | 0, c :: cs =>
    match nextPiece c cs with
    | some (piece, n) => unescapeFrom (piece ++ read) n cs
    | none => none

/-- The text that a literal with escapes stands for; `none` if an escape is malformed. -/
def unescape (cs : List Char) : Option (List Char) := unescapeFrom [] 0 cs

/-- Whether all escapes of a literal of bytes are complete: two hexadecimal digits follow `\x`. -/
def bytesAreComplete : List Char → Bool
  | [] => true
  | '\\' :: cs =>
    match cs with
    | [] => true
    | 'x' :: ds => (ds.take 2).length = 2 && (ds.take 2).all isHexDigit && bytesAreComplete ds
    | _ :: ds => bytesAreComplete ds
  | _ :: cs => bytesAreComplete cs

end SpellLint.Source
