import SpellLint.Proofs.Dictionary.Membership
import SpellLint.Proofs.Word.Separation

/-! # Unknown words of a text

The unknown words of a text are the words of it that the dictionary does not accept. A larger dictionary accepts more, so
fewer words are unknown (`mem_unknownWords_of_subset`). What stands on the other side of a separator has no influence
(`unknownWords_separated`).
-/

set_option autoImplicit false

namespace SpellLint

theorem isKnown_of_subset {d d' : Dictionary} (more : d.words ⊆ d'.words) {possessives : Bool} {word : String}
    (known : isKnown d possessives word = true) : isKnown d' possessives word = true := by
  have larger : ∀ w, d.contains w = true → d'.contains w = true := by
    intro w contained
    rw [Dictionary.contains_iff] at contained ⊢
    exact more contained
  unfold isKnown at known ⊢
  rw [Bool.or_eq_true, Bool.and_eq_true] at known ⊢
  rcases known with own | ⟨possessive, stem⟩
  · exact .inl (larger word own)
  · exact .inr ⟨possessive, larger _ stem⟩

theorem mem_unknownWords {text : String} {d : Dictionary} {possessives : Bool} {word : String} :
    word ∈ unknownWords text d possessives ↔
      word ∈ Word.segment text possessives ∧ isKnown d possessives word = false := by
  unfold unknownWords
  rw [mem_foldl_insert, List.mem_filter, Bool.not_eq_true']
  exact or_iff_right Std.TreeSet.not_mem_emptyc

theorem mem_unknownWords_of_subset {d d' : Dictionary} (more : d.words ⊆ d'.words) {text : String}
    {possessives : Bool} {word : String} (unknown : word ∈ unknownWords text d' possessives) :
    word ∈ unknownWords text d possessives := by
  rw [mem_unknownWords] at unknown ⊢
  obtain ⟨cut, unknown⟩ := unknown
  refine ⟨cut, Bool.eq_false_iff.mpr fun known => ?_⟩
  exact absurd (isKnown_of_subset more known) (Bool.eq_false_iff.mp unknown)

/-- The normal form of an unknown word is not in the dictionary. -/
theorem normalForm_notMem_words {text : String} {d : Dictionary} {possessives : Bool} {word : String}
    (unknown : word ∈ unknownWords text d possessives) : normalForm word ∉ d.words := by
  obtain ⟨-, unknown⟩ := mem_unknownWords.mp unknown
  intro member
  rw [isKnown, Dictionary.contains_iff.mpr member, Bool.true_or] at unknown
  cases unknown

/-! ## The two sides of a separator -/

/-- A character that can be in no word keeps the texts on its two sides apart: their words are the words of the one and
then those of the other, and so are the unknown ones. -/
theorem unknownWords_separated (a b : String) (s : Char) (d : Dictionary) (possessives : Bool)
    (separates : Word.Separates possessives s) :
    Word.segment (a ++ String.singleton s ++ b) possessives =
        Word.segment a possessives ++ Word.segment b possessives ∧
      ∀ word, word ∈ unknownWords (a ++ String.singleton s ++ b) d possessives ↔
        word ∈ unknownWords a d possessives ∨ word ∈ unknownWords b d possessives := by
  have segments := Word.segment_append_separator separates a b
  refine ⟨segments, ?_⟩
  intro word
  rw [mem_unknownWords, mem_unknownWords, mem_unknownWords, segments, List.mem_append, or_and_right]

theorem unknownWords_separated_acronym :
    Word.Separates true '_' ∧
      Word.segment "getHTTP_server's" true = ["get", "HTTP", "server's"] ∧
      ∀ word, word ∈ unknownWords "getHTTP_server's" (.ofWords ["Get", "server"]) true ↔ word = "HTTP" := by
  have separates : Word.Separates true '_' := by decide +kernel
  obtain ⟨segments, unknown⟩ :=
    unknownWords_separated "getHTTP" "server's" '_' (.ofWords ["Get", "server"]) true separates
  have text : "getHTTP" ++ String.singleton '_' ++ "server's" = "getHTTP_server's" := by decide +kernel
  have front : Word.segment "getHTTP" true = ["get", "HTTP"] := by decide +kernel
  have back : Word.segment "server's" true = ["server's"] := by decide +kernel
  rw [text] at segments unknown
  refine ⟨separates, segments.trans (by rw [front, back]; rfl), ?_⟩
  intro word
  have get : isKnown (.ofWords ["Get", "server"]) true "get" = true := by decide +kernel
  have acronym : isKnown (.ofWords ["Get", "server"]) true "HTTP" = false := by decide +kernel
  have server : isKnown (.ofWords ["Get", "server"]) true "server's" = true := by decide +kernel
  rw [unknown, mem_unknownWords, mem_unknownWords, front, back]
  constructor
  · rintro (⟨listed, stranger⟩ | ⟨listed, stranger⟩)
    · rcases List.mem_pair.mp listed with rfl | rfl
      · rw [get] at stranger
        cases stranger
      · rfl
    · obtain rfl := List.mem_singleton.mp listed
      rw [server] at stranger
      cases stranger
  · rintro rfl
    exact .inl ⟨by simp, acronym⟩

end SpellLint
