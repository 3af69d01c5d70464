import SpellLint.Proofs.Check.Reported
import SpellLint.Proofs.Distinct
import SpellLint.Proofs.Report.Outputs
import SpellLint.Proofs.Spelling.Unknown
import SpellLint.Proofs.Text.Pieces
import SpellLint.Proofs.Word.Positions
import SpellLint.Proofs.Word.Separation

/-! # Reading words back

A reader of a message, or of a row of the table, can tell the reported words apart: a word is made of letters, digits
and apostrophes (`Word.Separates.notMem`), so it has neither the colon nor the commas of a message, nor the blanks of a
cell. This does not depend on which texts the words come from, so it holds for whatever is reported at a span together
(`Reported`, `Diagnostic.exists_shows_of_mem_diagnose`).
-/

set_option autoImplicit false

namespace SpellLint

open SpellLint.Text

/-! ## Words have no separators -/

namespace Word

variable {keep : Bool} {s : Char}

theorem exists_kept_of_mem {text word : List Char} {c : Char} (member : word ∈ splitChars keep text)
    (inside : c ∈ word) : ∃ i, Kept keep text i ∧ text[i]? = some c := by
  have kept : c ∈ keptFrom keep text 0 text.length := by
    rw [← flatten_splitChars]
    exact List.mem_flatten.mpr ⟨word, member, inside⟩
  obtain ⟨i, -, place⟩ := List.mem_filterMap.mp kept
  split at place
  · next here => exact ⟨i, here, place⟩
  · cases place

theorem Separates.not_kept (h : Separates keep s) {text : List Char} {i : Nat} (place : text[i]? = some s) :
    ¬ Kept keep text i := by
  obtain ⟨separator, apostrophe⟩ := h
  unfold Kept HasAlphanumeric
  rw [place, Option.any_some, Option.any_some, separator]
  rintro (alphanumeric | ⟨keeps, inside, -⟩)
  · cases alphanumeric
  · rw [apostrophe keeps] at inside
    cases inside

/-- A character that separates words is in no word. -/
theorem Separates.notMem (h : Separates keep s) {text word : String} (member : word ∈ segment text keep) :
    s ∉ word.toList := by
  obtain ⟨chars, listed, rfl⟩ := List.mem_map.mp member
  rw [String.toList_ofList]
  intro inside
  obtain ⟨i, kept, place⟩ := exists_kept_of_mem (List.mem_of_mem_filter listed) inside
  exact h.not_kept place kept

/-- What separates words that may have apostrophes separates all words. -/
theorem Separates.of_kept (h : Separates true s) (keep : Bool) : Separates keep s := ⟨h.1, fun _ => h.2 rfl⟩

end Word

/-! ## Reported words -/

/-- Words that can be reported together: there are some, and each is unknown in some text. -/
structure Reported (words : Std.TreeSet String) : Prop where
  filled : words.isEmpty = false
  unknown : ∀ word ∈ words, ∃ text d possessives, word ∈ unknownWords text d possessives

theorem reported_unknownWords {text : String} {d : Dictionary} {possessives : Bool}
    (filled : (unknownWords text d possessives).isEmpty = false) : Reported (unknownWords text d possessives) :=
  ⟨filled, fun _ unknown => ⟨text, d, possessives, unknown⟩⟩

namespace Reported

variable {words words' : Std.TreeSet String}

theorem union (h : Reported words) (h' : Reported words') : Reported (words ∪ words') where
  filled := by rw [Std.TreeSet.isEmpty_union, h.filled, Bool.false_and]
  unknown word member := by
    rcases Std.TreeSet.mem_union_iff.mp member with own | other
    · exact h.unknown word own
    · exact h'.unknown word other

theorem toList_ne_nil (h : Reported words) : words.toList ≠ [] := by
  intro nothing
  have blank : words.isEmpty = true := by rw [← Std.TreeSet.isEmpty_toList, nothing, List.isEmpty_nil]
  rw [h.filled] at blank
  cases blank

theorem notMem (h : Reported words) {s : Char} (separates : Word.Separates true s) :
    ∀ word ∈ words.toList, s ∉ word.toList := by
  intro word member
  obtain ⟨text, d, possessives, unknown⟩ := h.unknown word (Std.TreeSet.mem_toList.mp member)
  exact (separates.of_kept possessives).notMem (mem_unknownWords.mp unknown).1

end Reported

/-! ## Messages -/

namespace Diagnostic

/-- What a reader takes from a message: what stands in front of the first colon, and the words behind it, which have
commas between them. -/
def readMessage (message : String) : Option (String × List String) :=
  (cutText ": " message).map fun cut => (cut.1, splitText ", " cut.2)

variable {words words' : Std.TreeSet String} {listing listing' : List String}

theorem mergeSort_of_perm (perm : listing.Perm words.toList) : listing.mergeSort (· ≤ ·) = words.toList := by
  have ascending : words.toList.Pairwise (· < ·) := words_ascending words
  have distinct : (listing.map id).Nodup := by
    rw [List.map_id, perm.nodup_iff]
    exact ascending.imp ne_of_lt
  have sorted : (listing.mergeSort (· ≤ ·)).Pairwise (· < ·) := pairwise_mergeSort_key id distinct
  apply sorted.eq_of_mem_iff ascending
  intro word
  rw [List.mem_mergeSort, perm.mem_iff]

/-- In whatever order words are listed, their message is the same. -/
theorem messageOf_of_perm (perm : listing.Perm words.toList) :
    messageOf listing =
      (if words.size = 1 then "misspelled word" else "misspelled words") ++ ": " ++ ", ".intercalate words.toList := by
  unfold messageOf
  rw [mergeSort_of_perm perm, perm.length_eq, Std.TreeSet.length_toList]
  split
  · rfl
  · rfl

theorem readMessage_messageOf (reported : Reported words) (perm : listing.Perm words.toList) :
    readMessage (messageOf listing) =
      some (if words.size = 1 then "misspelled word" else "misspelled words", words.toList) := by
  have noun : ':' ∉ (if words.size = 1 then "misspelled word" else "misspelled words").toList := by
    split
    · decide
    · decide
  have comma : Word.Separates true ',' := by decide +kernel
  rw [messageOf_of_perm perm, readMessage, cutText_append rfl noun, Option.map_some,
    splitText_intercalate rfl reported.toList_ne_nil (reported.notMem comma)]

/-- Only the same words have the same message. -/
theorem messageOf_eq_iff (reported : Reported words) (reported' : Reported words') (perm : listing.Perm words.toList)
    (perm' : listing'.Perm words'.toList) :
    messageOf listing = messageOf listing' ↔ ∀ word, word ∈ words ↔ word ∈ words' := by
  constructor
  · intro same word
    have read := readMessage_messageOf reported perm
    rw [same, readMessage_messageOf reported' perm'] at read
    obtain ⟨-, lists⟩ := Prod.mk.inj (Option.some.inj read)
    rw [← Std.TreeSet.mem_toList, ← Std.TreeSet.mem_toList, lists]
  · intro same
    have lists : words.toList = words'.toList := toList_congr same
    rw [messageOf_of_perm perm, messageOf_of_perm perm', ← Std.TreeSet.length_toList, ← Std.TreeSet.length_toList,
      lists]

end Diagnostic

/-! ## Rows -/

theorem mem_intercalate {sep : String} {words : List String} {c : Char} (inside : c ∈ (sep.intercalate words).toList) :
    c ∈ sep.toList ∨ ∃ word ∈ words, c ∈ word.toList := by
  induction words with
  | nil =>
    rw [String.intercalate_nil] at inside
    cases inside
  | cons word words ih =>
    cases words with
    | nil =>
      rw [String.intercalate_singleton] at inside
      exact .inr ⟨word, List.mem_cons_self, inside⟩
    | cons next words =>
      rw [String.intercalate_cons_cons, String.toList_append, String.toList_append, List.mem_append,
        List.mem_append] at inside
      rcases inside with (own | between) | later
      · exact .inr ⟨word, List.mem_cons_self, own⟩
      · exact .inl between
      · rcases ih later with between | ⟨other, member, own⟩
        · exact .inl between
        · exact .inr ⟨other, List.mem_cons_of_mem word member, own⟩

/-- The row of a diagnostic has its words in the fifth cell, with blanks between them. -/
theorem Report.misspellingRow_misspelled (file : Path) (d : Diagnostic) :
    ∃ row, misspellingRow (SpellingCheck.misspelled file d) = .ok row ∧ row[4]? = some (" ".intercalate d.words) := by
  have words : (SpellingCheck.misspelled file d).words " " = .ok (" ".intercalate d.words) := by
    have mentioned : (SpellingCheck.misspelled file d).details.has "words" = true := rfl
    have texts : ((SpellingCheck.misspelled file d).details.get "words").texts? = .ok d.words :=
      Result.textItems_texts 0 d.words
    rw [Result.words, if_pos mentioned, texts]
    rfl
  unfold misspellingRow
  rw [words]
  exact ⟨_, rfl, rfl⟩

namespace Reported

variable {words : Std.TreeSet String}

/-- A cell of reported words needs no quotes. -/
theorem tableCell_eq (reported : Reported words) :
    tableCell fileLineEnd (" ".intercalate words.toList) = " ".intercalate words.toList := by
  have special : ∀ s ∈ [',', '"', '\r', '\n'], Word.Separates true s := by
    have all : [',', '"', '\r', '\n'].all (decide <| Word.Separates true ·) = true := by decide +kernel
    simpa only [List.all_eq_true, decide_eq_true_eq] using all
  have blank : ' ' ∉ [',', '"', '\r', '\n'] := by decide
  have plain : needsQuotes fileLineEnd (" ".intercalate words.toList) = false := by
    rw [needsQuotes, List.any_eq_false]
    intro c inside quoted
    have listed : c ∈ [',', '"', '\r', '\n'] := by
      simpa [fileLineEnd, or_assoc] using quoted
    rcases mem_intercalate inside with between | ⟨word, member, own⟩
    · obtain rfl : c = ' ' := List.mem_singleton.mp between
      exact blank listed
    · exact reported.notMem (special c listed) word member own
  rw [tableCell, plain, if_neg Bool.false_ne_true]

theorem splitText_cell (reported : Reported words) : splitText " " (" ".intercalate words.toList) = words.toList := by
  have blank : Word.Separates true ' ' := by decide +kernel
  exact splitText_intercalate rfl reported.toList_ne_nil (reported.notMem blank)

end Reported

/-! ## Diagnostics -/

namespace Diagnostic

/-- A diagnostic is made for a set of words, in whatever order they are listed. -/
def Shows (d : Diagnostic) (words : Std.TreeSet String) : Prop :=
  ∃ location firstLine span listing, listing.Perm words.toList ∧ d = ofFinding location firstLine (span, listing)

variable {words : Std.TreeSet String} {d : Diagnostic}

theorem Shows.words_eq (shows : d.Shows words) : d.words = words.toList := by
  obtain ⟨location, firstLine, span, listing, perm, rfl⟩ := shows
  apply toList_congr
  intro word
  rw [mem_foldl_insert, perm.mem_iff, Std.TreeSet.mem_toList]
  exact or_iff_right Std.TreeSet.not_mem_emptyc

theorem Shows.message_eq (shows : d.Shows words) : d.message = messageOf words.toList := by
  have same := shows.words_eq
  obtain ⟨location, firstLine, span, listing, -, rfl⟩ := shows
  exact congrArg messageOf same

/-- Every diagnostic of a source shows words that are reported together. -/
theorem exists_shows_of_mem_diagnose {d : Dictionary} {policy : Policy} {view : SourceView} {diagnostic : Diagnostic}
    (member : diagnostic ∈ (SpellingCheck.diagnose d policy view).value) :
    ∃ words, Reported words ∧ diagnostic.Shows words := by
  obtain ⟨⟨span, listing⟩, listed, rfl⟩ := List.mem_map.mp member
  obtain ⟨filled, rfl⟩ := (Findings.mem_ordered _ span listing).mp listed
  refine ⟨_, ⟨?_, ?_⟩, view.location, view.firstLine, span, _, .refl _, rfl⟩
  · rw [← Std.TreeSet.isEmpty_toList]
    exact List.isEmpty_eq_false_iff.mpr filled
  · intro word found
    obtain ⟨node, -, -, -, text, -, -, unknown⟩ :=
      (Findings.mem_wordsAt_ofNodes d policy view.nodes.value span word).mp found
    exact ⟨text, d, policy.possessives, unknown⟩

/-- Reported words can be read back from the message of their diagnostic, in whatever order they have been listed, and
from its row in the table. Diagnostics say the same exactly if they are about the same words. -/
theorem words_read_back (words words' : Std.TreeSet String) (reported : Reported words) (reported' : Reported words')
    (d d' : Diagnostic) (shows : d.Shows words) (shows' : d'.Shows words') :
    (∀ listing : List String, listing.Perm words.toList →
      messageOf listing = d.message ∧
        readMessage (messageOf listing) =
          some (if words.size = 1 then "misspelled word" else "misspelled words", words.toList)) ∧
    (∀ file, ∃ row cell, Report.misspellingRow (SpellingCheck.misspelled file d) = .ok row ∧ row[4]? = some cell ∧
      tableCell fileLineEnd cell = cell ∧ splitText " " cell = words.toList) ∧
    (d.message = d'.message ↔ ∀ word, word ∈ words ↔ word ∈ words') := by
  refine ⟨?_, ?_, ?_⟩
  · intro listing perm
    have read := readMessage_messageOf reported perm
    refine ⟨?_, read⟩
    rw [shows.message_eq, messageOf_of_perm perm, messageOf_of_perm (.refl _)]
  · intro file
    obtain ⟨row, made, cell⟩ := Report.misspellingRow_misspelled file d
    rw [shows.words_eq] at cell
    exact ⟨row, _, made, cell, reported.tableCell_eq, reported.splitText_cell⟩
  · rw [shows.message_eq, shows'.message_eq]
    exact messageOf_eq_iff reported reported' (.refl _) (.refl _)

/-- The unknown words of two texts, with apostrophes in one of them. -/
def wordsOfTwoTexts : Std.TreeSet String :=
  unknownWords "it’s" (.ofWords []) true ∪ unknownWords "getHTTP" (.ofWords ["get"]) false

/-- The unknown word of a text. -/
def wordOfOneText : Std.TreeSet String := unknownWords "v_7" (.ofWords []) false

/-- The diagnostic of words, somewhere. -/
def somewhere (words : Std.TreeSet String) : Diagnostic :=
  ofFinding (fun _ => "a: b") (fun _ => none) (.origin, words.toList)

theorem words_read_back_two_texts :
    (Reported wordsOfTwoTexts ∧ Reported wordOfOneText) ∧
      readMessage (somewhere wordsOfTwoTexts).message = some ("misspelled words", ["HTTP", "it’s"]) ∧
      (somewhere wordsOfTwoTexts).message ≠ (somewhere wordOfOneText).message := by
  have one : Reported wordOfOneText := reported_unknownWords (by decide +kernel)
  have two : Reported wordsOfTwoTexts :=
    (reported_unknownWords (by decide +kernel)).union (reported_unknownWords (by decide +kernel))
  have shows : ∀ words, (somewhere words).Shows words := fun words => ⟨_, _, _, _, .refl _, rfl⟩
  obtain ⟨messages, -, same⟩ :=
    words_read_back wordsOfTwoTexts wordOfOneText two one _ _ (shows wordsOfTwoTexts) (shows wordOfOneText)
  obtain ⟨made, read⟩ := messages wordsOfTwoTexts.toList (.refl _)
  have listed : wordsOfTwoTexts.toList = ["HTTP", "it’s"] := by decide +kernel
  refine ⟨⟨two, one⟩, ?_, ?_⟩
  · rw [← made, read, ← Std.TreeSet.length_toList, listed]
    rfl
  · intro equal
    have here : "it’s" ∈ wordsOfTwoTexts := by
      rw [← Std.TreeSet.mem_toList, listed]
      decide
    have there : "it’s" ∉ wordOfOneText := by decide +kernel
    exact there ((same.mp equal "it’s").mp here)

end Diagnostic

end SpellLint
