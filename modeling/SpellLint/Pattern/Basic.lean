import SpellLint.Text.Alphanumeric
import SpellLint.Text.Blank
import SpellLint.Text.Case
import SpellLint.Text.Digit

/-! # Patterns

Regular expressions and where they match. A match is searched for in order: of two alternatives the first is tried
first, a repetition is as long as it can be unless it is lazy, and what comes behind decides whether another way
is tried. A group remembers the text that it matched last, so that the pattern can ask for the same text again.
-/

set_option autoImplicit false

namespace SpellLint

open SpellLint.Text

/-! ## Sets of characters -/

/-- A member of a set of characters. The named classes can be kept to ASCII. -/
inductive CharItem where
  | range (first last : Nat)
  | digit (ascii : Bool)
  | blank (ascii : Bool)
  | word (ascii : Bool)
  deriving DecidableEq, Repr

/-- Whether a character is a part of a word: a letter, a digit or an underscore. -/
def isWordChar (ascii : Bool) (c : Char) : Bool :=
  c = '_' || (if ascii then c.isAlphanum else isAlphanumeric c)

namespace CharItem

/-- One character. -/
def only (code : Nat) : CharItem := range code code

/-- Whether a member of a set stands for a character. -/
def mem (c : Char) : CharItem → Bool
  | range first last => first ≤ c.toNat && c.toNat ≤ last
  | digit ascii => if ascii then c.isDigit else isDecimal c
  | blank ascii => if ascii then [' ', '\t', '\n', '\r', '\x0b', '\x0c'].contains c else isBlank c
  | word ascii => isWordChar ascii c

end CharItem

/-- A set of characters: its members, or all other characters. Case can be ignored. -/
structure CharSet where
  members : List CharItem
  others : Bool
  ignoresCase : Bool
  deriving DecidableEq, Repr

/-- The forms of a character in small and in capital letters, if they are one character each. -/
def caseForms (c : Char) : List Char :=
  [lowerChar c, upperChar c].filterMap fun cs => if cs.length = 1 then cs.head? else none

/-- Whether a character is in a set. -/
def CharSet.mem (s : CharSet) (c : Char) : Bool :=
  let forms := if s.ignoresCase then c :: caseForms c else [c]
  (forms.any fun d => s.members.any (·.mem d)) != s.others

/-! ## Patterns -/

/-- A place between characters. -/
inductive Edge where
  /-- The start of the text, or of any line. -/
  | start (anyLine : Bool)
  /-- The end of the text or before a line feed there, or the end of any line. -/
  | stop (anyLine : Bool)
  /-- Between a part of a word and something else. -/
  | word (ascii : Bool)
  deriving DecidableEq, Repr

/-- How often a repetition is tried. -/
inductive Eagerness where
  | greedy
  | lazy
  /-- Greedy, and what has been taken is not given back. -/
  | possessive
  deriving DecidableEq, Repr

/-- A pattern. -/
inductive Pattern where
  | empty
  | never
  | one (s : CharSet)
  | edge (e : Edge)
  | seq (p q : Pattern)
  | alt (p q : Pattern)
  | group (number : Nat) (p : Pattern)
  /-- The text of a group once more; the least and the greatest number of characters of that group. -/
  | again (number : Nat) (ignoresCase : Bool) (width : Nat × Nat)
  /-- Only the first way in which `p` matches. -/
  | atomic (p : Pattern)
  | repeated (least : Nat) (most : Option Nat) (eagerness : Eagerness) (p : Pattern)
  /-- Whether `p` matches what comes next. -/
  | ahead (wanted : Bool) (p : Pattern)
  /-- Whether `p` matches what came before. -/
  | behind (wanted : Bool) (p : Pattern)
  /-- `p` if a group has matched, and `q` otherwise. -/
  | ifGroup (number : Nat) (p q : Pattern)
  deriving Repr

namespace Pattern

/-! ## How much a pattern matches -/

/-- A number that counts as without end. -/
def endless : Nat := 4294967295

/-- A width that stays in bounds. -/
def boundedWidth (w : Nat × Nat) : Nat × Nat := (min w.1 (endless - 1), min w.2 endless)

/-- The least and the greatest number of characters that a pattern matches. -/
def width : Pattern → Nat × Nat
  | empty => (0, 0)
  | never => (0, 0)
  | one _ => (1, 1)
  | edge _ => (0, 0)
  | seq p q => boundedWidth (p.width.1 + q.width.1, p.width.2 + q.width.2)
  | alt p q => (min p.width.1 q.width.1, max p.width.2 q.width.2)
  | group _ p => p.width
  | again _ _ w => w
  | atomic p => p.width
  | repeated least most _ p => boundedWidth (p.width.1 * least, p.width.2 * most.getD endless)
  | ahead _ _ => (0, 0)
  | behind _ _ => (0, 0)
  | ifGroup _ p q => (min p.width.1 q.width.1, max p.width.2 q.width.2)

/-- Whether all that is looked for behind the current place has a fixed width. -/
def looksBackFixed : Pattern → Bool
  | seq p q => p.looksBackFixed && q.looksBackFixed
  | alt p q => p.looksBackFixed && q.looksBackFixed
  | group _ p => p.looksBackFixed
  | atomic p => p.looksBackFixed
  | repeated _ _ _ p => p.looksBackFixed
  | ahead _ p => p.looksBackFixed
  | behind _ p => p.width.1 = p.width.2 && p.looksBackFixed
  | ifGroup _ p q => p.looksBackFixed && q.looksBackFixed
  | _ => true

/-! ## Matching -/

/-- A place in a text: the characters before it, the last one first, and those behind it. The texts of the groups
so far, the last one first. -/
structure Place where
  before : List Char
  after : List Char
  groups : List (Nat × List Char)

namespace Place

/-- The start of a text. -/
def atStart (text : List Char) : Place := ⟨[], text, []⟩

/-- The next place. -/
def next (s : Place) : Option Place :=
  match s.after with
  | [] => none
  | c :: rest => some { s with before := c :: s.before, after := rest }

/-- The place so many characters back. -/
def back : Nat → Place → Option Place
  | 0, s => some s
  | n + 1, s =>
    match s.before with
    | [] => none
    | c :: rest => back n { s with before := rest, after := c :: s.after }

/-- The place behind a text that comes next; case can be ignored. -/
def behindText (ignoresCase : Bool) : List Char → Place → Option Place
  | [], s => some s
  | c :: cs, s =>
    match s.after with
    | [] => none
    | d :: rest =>
      let same := c = d || (ignoresCase && (caseForms c).any (d :: caseForms d).contains)
      if same then behindText ignoresCase cs { s with before := d :: s.before, after := rest } else none

/-- Whether a place is an edge. -/
def isAt (s : Place) : Edge → Bool
  | .start anyLine => s.before.isEmpty || (anyLine && s.before.head? = some '\n')
  | .stop anyLine => s.after.isEmpty || (s.after.head? = some '\n' && (anyLine || s.after.length = 1))
  | .word ascii => s.before.head?.any (isWordChar ascii) != s.after.head?.any (isWordChar ascii)

/-- The text between an earlier place and this one. -/
def textSince (s earlier : Place) : List Char := (s.before.take (s.before.length - earlier.before.length)).reverse

end Place

/-- What comes behind a pattern: where it ends, if it matches from a place on. -/
abbrev Rest := Place → Option Place

/-- A step that is taken `n` times. -/
def times (step : Place → Rest → Option Place) : Nat → Place → Rest → Option Place
  | 0, s, rest => rest s
  | n + 1, s, rest => step s fun t => times step n t rest

/-- A step that is taken again as often as it can, or as seldom, at most `room` times; a step that does not move on
is the last. `fuel` bounds the number of steps, and `last` is the place of the step before. -/
def further (step : Place → Rest → Option Place) (greedy : Bool) :
    (fuel : Nat) → (room last : Option Nat) → Place → Rest → Option Place
  | 0, _, _, s, rest => rest s
  | fuel + 1, room, last, s, rest =>
    let here := s.before.length
    let again (_ : Unit) : Option Place :=
      if room = some 0 || last = some here then none
      else step s fun t => further step greedy fuel (room.map (· - 1)) (some here) t rest
    if greedy then (again ()).orElse fun _ => rest s else (rest s).orElse again

/-- Where the first match of a pattern and of what comes behind it ends. -/
def run : Pattern → Place → Rest → Option Place
  | empty, s, rest => rest s
  | never, _, _ => none
  | one set, s, rest =>
    match s.after with
    | [] => none
    | c :: after => if set.mem c then rest { s with before := c :: s.before, after } else none
  | edge e, s, rest => if s.isAt e then rest s else none
  | seq p q, s, rest => run p s fun t => run q t rest
  | alt p q, s, rest => (run p s rest).orElse fun _ => run q s rest
  | group n p, s, rest => run p s fun t => rest { t with groups := (n, t.textSince s) :: t.groups }
  | again n ignoresCase _, s, rest =>
    match s.groups.lookup n with
    | none => none
    | some text => (s.behindText ignoresCase text).bind rest
  | atomic p, s, rest => (run p s some).bind rest
  | repeated least most eagerness p, s, rest =>
    let room := most.map (· - least)
    match eagerness with
    | .possessive =>
      let step : Place → Rest → Option Place := fun t k => (run p t some).bind k
      ((times step least s some).bind fun t => further step true (t.after.length + 2) room none t some).bind rest
    | eager =>
      times (run p) least s fun t =>
        further (run p) (eager = .greedy) (t.after.length + 2) room none t rest
  | ahead wanted p, s, rest =>
    match run p s some with
    | some t => if wanted then rest { s with groups := t.groups } else none
    | none => if wanted then none else rest s
  | behind wanted p, s, rest =>
    match (s.back p.width.1).bind fun t => run p t some with
    | some t => if wanted then rest { s with groups := t.groups } else none
    | none => if wanted then none else rest s
  | ifGroup n p q, s, rest => if (s.groups.lookup n).isSome then run p s rest else run q s rest

/-- Whether a pattern matches from a place on, or from one behind it; `count` places are tried. -/
def matchesFrom (p : Pattern) : (count : Nat) → Place → Bool
  | 0, _ => false
  | count + 1, s =>
    (p.run s some).isSome || (match s.next with
      | none => false
      | some t => matchesFrom p count t)

/-- Whether a pattern matches somewhere in a text. -/
def matchesIn (p : Pattern) (text : String) : Bool :=
  matchesFrom p (text.length + 1) (.atStart text.toList)

end Pattern

end SpellLint
