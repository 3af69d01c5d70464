import SpellLint.Proofs.Word.OnePass

/-! # Words of ASCII texts as tokens

Of an ASCII text the words can be told by three rules, tried in order at each place from left to right (`wordRules`): a
run of capitals with no small letter behind it, small letters with at most one capital in front, a run of digits. The
first rule that matches takes as much as it can, and where none matches one character is skipped (`Tokens`).

Splitting does not look for the end of a token; it asks at every two neighbours whether a word goes on. `WholeToken` is
what both have in common: a token and where it may end, told by the next two characters.
-/

set_option autoImplicit false

namespace SpellLint.Word

open SpellLint.Text

/-! ## Tokens by rules -/

/-- A kind of token: which texts are tokens of this kind in front of which rest. -/
abbrev TokenRule := List Char → List Char → Prop

namespace TokenRule

/-- Whether a text starts with a token. -/
def Matches (rule : TokenRule) (text : List Char) : Prop := ∃ token rest, text = token ++ rest ∧ rule token rest

/-- A token that is as long as any with which the same text starts. -/
def Longest (rule : TokenRule) (token rest : List Char) : Prop :=
  rule token rest ∧ ∀ token' rest', token' ++ rest' = token ++ rest → rule token' rest' → token'.length ≤ token.length

end TokenRule

/-- The longest token by the first of the rules that match. -/
def FirstMatch : List TokenRule → List Char → List Char → Prop
  | [], _, _ => False
  | rule :: rules, token, rest =>
    rule.Longest token rest ∨ ¬ rule.Matches (token ++ rest) ∧ FirstMatch rules token rest

/-- The tokens of a text from left to right: what the first matching rule takes, and one character is skipped where no
rule matches. -/
inductive Tokens (rules : List TokenRule) : List Char → List (List Char) → Prop where
  | done : Tokens rules [] []
  | take {text token rest : List Char} {tokens : List (List Char)} : text = token ++ rest →
      FirstMatch rules token rest → Tokens rules rest tokens → Tokens rules text (token :: tokens)
  | skip {c : Char} {rest : List Char} {tokens : List (List Char)} : (∀ rule ∈ rules, ¬ rule.Matches (c :: rest)) →
      Tokens rules rest tokens → Tokens rules (c :: rest) tokens

namespace FirstMatch

variable {rules : List TokenRule} {token rest : List Char}

theorem exists_rule (h : FirstMatch rules token rest) : ∃ rule ∈ rules, rule token rest := by
  induction rules with
  | nil => cases h
  | cons rule rules ih =>
    rcases h with longest | ⟨-, later⟩
    · exact ⟨rule, List.mem_cons_self, longest.1⟩
    · obtain ⟨other, member, holds⟩ := ih later
      exact ⟨other, List.mem_cons_of_mem rule member, holds⟩

theorem unique {token' rest' : List Char} (h : FirstMatch rules token rest) (h' : FirstMatch rules token' rest')
    (same : token ++ rest = token' ++ rest') : token = token' ∧ rest = rest' := by
  induction rules with
  | nil => cases h
  | cons rule rules ih =>
    rcases h with longest | ⟨none, later⟩
    · rcases h' with longest' | ⟨none', -⟩
      · have le := longest'.2 token rest same longest.1
        have ge := longest.2 token' rest' same.symm longest'.1
        exact List.append_inj same (Nat.le_antisymm le ge)
      · exact absurd ⟨token, rest, same.symm, longest.1⟩ none'
    · rcases h' with longest' | ⟨-, later'⟩
      · exact absurd ⟨token', rest', same, longest'.1⟩ none
      · exact ih later later'

end FirstMatch

namespace Tokens

variable {rules : List TokenRule}

theorem of_take {text token rest : List Char} {tokens : List (List Char)} (h : Tokens rules text tokens)
    (cut : text = token ++ rest) (filled : token ≠ []) (first : FirstMatch rules token rest) :
    ∃ more, tokens = token :: more ∧ Tokens rules rest more := by
  obtain ⟨rule, member, holds⟩ := first.exists_rule
  cases h with
  | done => exact absurd (List.append_eq_nil_iff.mp cut.symm).1 filled
  | take cut' first' more =>
    obtain ⟨rfl, rfl⟩ := first.unique first' (cut.symm.trans cut')
    exact ⟨_, rfl, more⟩
  | skip nothing _ => exact absurd ⟨token, rest, cut, holds⟩ (nothing rule member)

/-- If no token is empty, a text determines its tokens. -/
theorem unique (filled : ∀ rule ∈ rules, ∀ rest, ¬ rule [] rest) {text : List Char} {tokens tokens' : List (List Char)}
    (h : Tokens rules text tokens) (h' : Tokens rules text tokens') : tokens = tokens' := by
  have nonempty : ∀ {token rest}, FirstMatch rules token rest → token ≠ [] := by
    rintro token rest first rfl
    obtain ⟨rule, member, holds⟩ := first.exists_rule
    exact filled rule member rest holds
  induction h generalizing tokens' with
  | done =>
    cases h' with
    | done => rfl
    | take cut first _ => exact absurd (List.append_eq_nil_iff.mp cut.symm).1 (nonempty first)
  | take cut first _ ih =>
    obtain ⟨more, rfl, later⟩ := h'.of_take cut (nonempty first) first
    rw [ih later]
  | skip nothing _ ih =>
    cases h' with
    | take cut first _ =>
      obtain ⟨rule, member, holds⟩ := first.exists_rule
      exact absurd ⟨_, _, cut, holds⟩ (nothing rule member)
    | skip _ later => exact ih later

end Tokens

/-! ## The rules for words -/

/-- A run of characters of one class. -/
def Run (p : Char → Bool) (token : List Char) : Prop := token ≠ [] ∧ ∀ c ∈ token, p c = true

/-- A run of small letters, with or without a capital in front. -/
def Capitalised (token : List Char) : Prop :=
  Run Char.isLower token ∨ ∃ c lowers, token = c :: lowers ∧ c.isUpper = true ∧ Run Char.isLower lowers

/-- Whether a text starts with a character of a class. -/
def StartsWith (p : Char → Bool) (text : List Char) : Prop := ∃ c rest, text = c :: rest ∧ p c = true

namespace TokenRule

/-- A run of capitals with no small letter behind it. -/
def capitals : TokenRule := fun token rest => Run Char.isUpper token ∧ ¬ StartsWith Char.isLower rest

/-- A run of small letters, with or without a capital in front. -/
def word : TokenRule := fun token _ => Capitalised token

/-- A run of digits. -/
def digits : TokenRule := fun token _ => Run Char.isDigit token

end TokenRule

/-- The rules for words, in the order in which they are tried. -/
def wordRules : List TokenRule := [.capitals, .word, .digits]

/-- A token and what tells that it ends: the next character is not of its class, except that one capital may be left
to the small letters behind it. -/
inductive WholeToken (token rest : List Char) : Prop where
  | capitals (run : Run Char.isUpper token) (ends : ¬ StartsWith Char.isLower rest)
      (left : ∀ c more, rest = c :: more → c.isUpper = true → StartsWith Char.isLower more)
  | word (capitalised : Capitalised token) (ends : ¬ StartsWith Char.isLower rest)
  | digits (run : Run Char.isDigit token) (ends : ¬ StartsWith Char.isDigit rest)

/-! ## Classes of characters -/

@[grind →]
theorem classes_of_isUpper {c : Char} (h : c.isUpper = true) :
    c.isLower = false ∧ c.isDigit = false ∧ c.isAlphanum = true := by
  unfold Char.isAlphanum Char.isAlpha Char.isUpper Char.isLower Char.isDigit at *
  grind

@[grind →]
theorem classes_of_isLower {c : Char} (h : c.isLower = true) :
    c.isUpper = false ∧ c.isDigit = false ∧ c.isAlphanum = true := by
  unfold Char.isAlphanum Char.isAlpha Char.isUpper Char.isLower Char.isDigit at *
  grind

@[grind →]
theorem classes_of_isDigit {c : Char} (h : c.isDigit = true) :
    c.isUpper = false ∧ c.isLower = false ∧ c.isAlphanum = true := by
  unfold Char.isAlphanum Char.isAlpha Char.isUpper Char.isLower Char.isDigit at *
  grind

theorem not_isLower_of_isUpper {c : Char} (upper : c.isUpper = true) : ¬ c.isLower = true :=
  Bool.eq_false_iff.mp (classes_of_isUpper upper).1

theorem classes_of_lt : ∀ n < 128, alphanumeric.mem n = (Char.ofNat n).isAlphanum ∧ digits.mem n = (Char.ofNat n).isDigit ∧
    lowercase.mem n = (Char.ofNat n).isLower ∧ uppercase.mem n = (Char.ofNat n).isUpper := by
  decide +kernel

/-! ## A whole token is the first match -/

theorem exists_longer {token token' rest rest' : List Char} (same : token' ++ rest' = token ++ rest)
    (longer : token.length < token'.length) :
    ∃ c more, token' = token ++ c :: more ∧ rest = c :: (more ++ rest') := by
  rcases List.append_eq_append_iff.mp same with ⟨mid, rfl, -⟩ | ⟨mid, rfl, rfl⟩
  · rw [List.length_append] at longer
    omega
  · cases mid with
    | nil => simp at longer
    | cons c more => exact ⟨c, more, rfl, rfl⟩

/-- Behind the first character of a capitalised token there are only small letters. -/
theorem Capitalised.isLower {c : Char} {more : List Char} (h : Capitalised (c :: more)) :
    (∀ d ∈ more, d.isLower = true) ∧ (c.isLower = true ∨ c.isUpper = true ∧ Run Char.isLower more) := by
  rcases h with ⟨-, lower⟩ | ⟨c, lowers, cut, upper, run⟩
  · exact ⟨fun d member => lower d (List.mem_cons_of_mem c member), .inl (lower c List.mem_cons_self)⟩
  · obtain ⟨rfl, rfl⟩ := List.cons.inj cut
    exact ⟨run.2, .inr ⟨upper, run⟩⟩

theorem Capitalised.ne_nil {token : List Char} (h : Capitalised token) : token ≠ [] := by
  rcases h with run | ⟨c, lowers, rfl, -, -⟩
  · exact run.1
  · exact List.cons_ne_nil c lowers

namespace TokenRule.Matches

variable {c : Char} {rest : List Char}

theorem isUpper (h : capitals.Matches (c :: rest)) : c.isUpper = true := by
  obtain ⟨token, rest', cut, run, -⟩ := h
  obtain ⟨d, more, rfl⟩ := List.exists_cons_of_ne_nil run.1
  obtain ⟨rfl, -⟩ := List.cons.inj cut
  exact run.2 c List.mem_cons_self

theorem isAlpha (h : word.Matches (c :: rest)) : c.isLower = true ∨ c.isUpper = true := by
  obtain ⟨token, rest', cut, capitalised⟩ := h
  obtain ⟨d, more, rfl⟩ := List.exists_cons_of_ne_nil (Capitalised.ne_nil capitalised)
  obtain ⟨rfl, -⟩ := List.cons.inj cut
  exact (Capitalised.isLower capitalised).2.imp_right And.left

theorem isDigit (h : digits.Matches (c :: rest)) : c.isDigit = true := by
  obtain ⟨token, rest', cut, run⟩ := h
  obtain ⟨d, more, rfl⟩ := List.exists_cons_of_ne_nil run.1
  obtain ⟨rfl, -⟩ := List.cons.inj cut
  exact run.2 c List.mem_cons_self

theorem isAlphanum {rule : TokenRule} (member : rule ∈ wordRules) (h : rule.Matches (c :: rest)) :
    c.isAlphanum = true := by
  simp only [wordRules, List.mem_cons, List.not_mem_nil, or_false] at member
  rcases member with rfl | rfl | rfl
  · exact (classes_of_isUpper h.isUpper).2.2
  · rcases h.isAlpha with lower | upper
    · exact (classes_of_isLower lower).2.2
    · exact (classes_of_isUpper upper).2.2
  · exact (classes_of_isDigit h.isDigit).2.2

end TokenRule.Matches

namespace WholeToken

variable {token rest : List Char}

theorem longest_capitals (run : Run Char.isUpper token) (ends : ¬ StartsWith Char.isLower rest)
    (left : ∀ c more, rest = c :: more → c.isUpper = true → StartsWith Char.isLower more) :
    TokenRule.capitals.Longest token rest := by
  refine ⟨⟨run, ends⟩, ?_⟩
  rintro token' rest' same ⟨run', ends'⟩
  by_contra longer
  obtain ⟨c, more, rfl, behind⟩ := exists_longer same (Nat.lt_of_not_le longer)
  -- The longer run has the capital that is left to the small letter behind it: it ends in front of that letter or holds it.
  have upper : ∀ d ∈ c :: more, d.isUpper = true := fun d member => run'.2 d (List.mem_append_right token member)
  obtain ⟨d, others, next, lower⟩ := left c _ behind (upper c List.mem_cons_self)
  cases more with
  | nil => exact ends' ⟨d, others, next, lower⟩
  | cons e more =>
    obtain ⟨rfl, -⟩ := List.cons.inj next
    exact not_isLower_of_isUpper (upper e (List.mem_cons_of_mem c List.mem_cons_self)) lower

theorem longest_word (capitalised : Capitalised token) (ends : ¬ StartsWith Char.isLower rest) :
    TokenRule.word.Longest token rest := by
  refine ⟨capitalised, ?_⟩
  intro token' rest' same capitalised'
  by_contra longer
  obtain ⟨c, more, rfl, behind⟩ := exists_longer same (Nat.lt_of_not_le longer)
  obtain ⟨first, others, rfl⟩ := List.exists_cons_of_ne_nil capitalised.ne_nil
  have member : c ∈ others ++ c :: more := List.mem_append_right others List.mem_cons_self
  exact ends ⟨c, _, behind, capitalised'.isLower.1 c member⟩

theorem longest_digits (run : Run Char.isDigit token) (ends : ¬ StartsWith Char.isDigit rest) :
    TokenRule.digits.Longest token rest := by
  refine ⟨run, ?_⟩
  intro token' rest' same run'
  by_contra longer
  obtain ⟨c, more, rfl, behind⟩ := exists_longer same (Nat.lt_of_not_le longer)
  exact ends ⟨c, _, behind, run'.2 c (List.mem_append_right token List.mem_cons_self)⟩

/-- Of a capital and small letters the capital alone is no token, because a small letter stands behind it. -/
theorem no_capitals_of_capitalised (capitalised : Capitalised token) :
    ¬ TokenRule.capitals.Matches (token ++ rest) := by
  rintro ⟨token', rest', same, run', ends'⟩
  obtain ⟨c, more, rfl⟩ := List.exists_cons_of_ne_nil capitalised.ne_nil
  obtain ⟨c', more', rfl⟩ := List.exists_cons_of_ne_nil run'.1
  obtain ⟨rfl, behind⟩ := List.cons.inj same
  have upper : c.isUpper = true := run'.2 c List.mem_cons_self
  rcases capitalised.isLower.2 with lower | ⟨-, lowers⟩
  · exact not_isLower_of_isUpper upper lower
  · obtain ⟨d, others, rfl⟩ := List.exists_cons_of_ne_nil lowers.1
    have lower : d.isLower = true := lowers.2 d List.mem_cons_self
    cases more' with
    | nil => exact ends' ⟨d, others ++ rest, behind.symm, lower⟩
    | cons e more' =>
      obtain ⟨rfl, -⟩ := List.cons.inj behind
      exact not_isLower_of_isUpper (run'.2 d (List.mem_cons_of_mem c List.mem_cons_self)) lower

theorem firstMatch (h : WholeToken token rest) : FirstMatch wordRules token rest := by
  cases h with
  | capitals run ends left => exact .inl (longest_capitals run ends left)
  | word capitalised ends =>
    exact .inr ⟨no_capitals_of_capitalised capitalised, .inl (longest_word capitalised ends)⟩
  | digits run ends =>
    obtain ⟨c, more, rfl⟩ := List.exists_cons_of_ne_nil run.1
    have digit : c.isDigit = true := run.2 c List.mem_cons_self
    refine .inr ⟨fun matched => ?_, .inr ⟨fun matched => ?_, .inl (longest_digits run ends)⟩⟩
    · have upper := matched.isUpper
      rw [(classes_of_isDigit digit).1] at upper
      cases upper
    · have letter := matched.isAlpha
      rw [(classes_of_isDigit digit).1, (classes_of_isDigit digit).2.1] at letter
      simp at letter

end WholeToken

/-! ## Words of ASCII texts -/

theorem classes_of_ascii {c : Char} (h : c.toNat < 128) :
    isAlphanumeric c = c.isAlphanum ∧ isDigit c = c.isDigit ∧ isLower c = c.isLower ∧ isUpper c = c.isUpper := by
  have classes := classes_of_lt c.toNat h
  rw [Char.ofNat_toNat] at classes
  exact classes

theorem isAlphanum_cases {c : Char} (h : c.isAlphanum = true) : c.isUpper = true ∨ c.isLower = true ∨ c.isDigit = true := by
  unfold Char.isAlphanum Char.isAlpha at h
  grind

theorem startsWith_isLower_iff {cs : List Char} (ascii : ∀ e ∈ cs, e.toNat < 128) :
    (cs.head?.filter isAlphanumeric).any isLower = true ↔ StartsWith Char.isLower cs := by
  cases cs with
  | nil => simp [StartsWith]
  | cons e cs =>
    obtain ⟨alphanumeric, -, lower, -⟩ := classes_of_ascii (ascii e List.mem_cons_self)
    simp only [StartsWith, List.head?_cons, Option.filter_some, alphanumeric, List.cons.injEq]
    grind

/-- In ASCII texts the classes of ASCII letters and digits decide whether a word goes on. -/
theorem goesOn_cons_iff {c d : Char} {cs : List Char} (ascii : ∀ e ∈ c :: d :: cs, e.toNat < 128)
    (alphanumeric : isAlphanumeric c = true) :
    goesOn false c (d :: cs) = true ↔ d.isAlphanum = true ∧ c.isDigit = d.isDigit ∧
      ¬ (c.isLower = true ∧ d.isUpper = true) ∧
      ¬ (c.isUpper = true ∧ d.isUpper = true ∧ StartsWith Char.isLower cs) := by
  have behind := startsWith_isLower_iff fun e member =>
    ascii e (List.mem_cons_of_mem c (List.mem_cons_of_mem d member))
  obtain ⟨-, cDigit, cLower, cUpper⟩ := classes_of_ascii (ascii c List.mem_cons_self)
  obtain ⟨dAlphanumeric, dDigit, dLower, dUpper⟩ :=
    classes_of_ascii (ascii d (List.mem_cons_of_mem c List.mem_cons_self))
  have cPlain := isApostrophe_of_isAlphanumeric alphanumeric
  have dPlain := isApostrophe_of_isAlphanumeric (c := d)
  rw [← behind, ← dAlphanumeric, ← cDigit, ← dDigit, ← cLower, ← cUpper, ← dUpper]
  unfold goesOn isKept startsNew
  grind

namespace WholeToken

variable {c : Char} {cs : List Char}

/-- A character with which no word goes on is a whole token. -/
theorem single (ascii : ∀ e ∈ c :: cs, e.toNat < 128) (alphanumeric : isAlphanumeric c = true)
    (stops : goesOn false c cs = false) : WholeToken [c] cs := by
  have stops' : ∀ d more, cs = d :: more → ¬ (d.isAlphanum = true ∧ c.isDigit = d.isDigit ∧
      ¬ (c.isLower = true ∧ d.isUpper = true) ∧
      ¬ (c.isUpper = true ∧ d.isUpper = true ∧ StartsWith Char.isLower more)) := by
    rintro d more rfl goes
    rw [← goesOn_cons_iff ascii alphanumeric, stops] at goes
    cases goes
  have run : ∀ {p : Char → Bool}, p c = true → Run p [c] := by
    intro p h
    simpa [Run] using h
  rw [(classes_of_ascii (ascii c List.mem_cons_self)).1] at alphanumeric
  rcases isAlphanum_cases alphanumeric with upper | lower | digit
  · refine .capitals (run upper) ?_ ?_
    · rintro ⟨d, more, rfl, lower⟩
      have := stops' d more rfl
      grind
    · intro d more next upper'
      by_contra left
      have := stops' d more next
      grind
  · refine .word (.inl (run lower)) ?_
    rintro ⟨d, more, rfl, lower'⟩
    have := stops' d more rfl
    grind
  · refine .digits (run digit) ?_
    rintro ⟨d, more, rfl, digit'⟩
    have := stops' d more rfl
    grind

/-- A character with which a word goes on is one more of the token behind it. -/
theorem cons {token rest : List Char} (ascii : ∀ e ∈ c :: (token ++ rest), e.toNat < 128)
    (alphanumeric : isAlphanumeric c = true) (goes : goesOn false c (token ++ rest) = true)
    (whole : WholeToken token rest) : WholeToken (c :: token) rest := by
  have next : ∀ d more, token = d :: more → c.isDigit = d.isDigit ∧ ¬ (c.isLower = true ∧ d.isUpper = true) ∧
      ¬ (c.isUpper = true ∧ d.isUpper = true ∧ StartsWith Char.isLower (more ++ rest)) := by
    rintro d more rfl
    exact ((goesOn_cons_iff ascii alphanumeric).mp goes).2
  have longer : ∀ {p : Char → Bool}, p c = true → Run p token → Run p (c :: token) := by
    intro p first run
    exact ⟨List.cons_ne_nil c token, List.forall_mem_cons.mpr ⟨first, run.2⟩⟩
  rw [(classes_of_ascii (ascii c List.mem_cons_self)).1] at alphanumeric
  have kinds := isAlphanum_cases alphanumeric
  cases whole with
  | capitals run ends left =>
    obtain ⟨d, more, rfl⟩ := List.exists_cons_of_ne_nil run.1
    have upper := run.2 d List.mem_cons_self
    have alike := next d more rfl
    have upper' : c.isUpper = true := by grind
    exact .capitals (longer upper' run) ends left
  | word capitalised ends =>
    refine .word ?_ ends
    rcases capitalised with run | ⟨d, lowers, rfl, upper, run⟩
    · obtain ⟨d, more, rfl⟩ := List.exists_cons_of_ne_nil run.1
      have lower := run.2 d List.mem_cons_self
      have alike := next d more rfl
      rcases kinds with upper' | lower' | digit'
      · exact .inr ⟨c, d :: more, rfl, upper', run⟩
      · exact .inl (longer lower' run)
      · grind
    · have behind : StartsWith Char.isLower (lowers ++ rest) := by
        obtain ⟨e, more, rfl⟩ := List.exists_cons_of_ne_nil run.1
        exact ⟨e, more ++ rest, rfl, run.2 e List.mem_cons_self⟩
      have alike := next d lowers rfl
      grind
  | digits run ends =>
    obtain ⟨d, more, rfl⟩ := List.exists_cons_of_ne_nil run.1
    have digit := run.2 d List.mem_cons_self
    exact .digits (longer ((next d more rfl).1.trans digit) run) ends

end WholeToken

/-- Where no apostrophes are kept, it does not matter what stands in front. -/
theorem wordsAfter_plain (afterWord : Bool) (cs : List Char) : wordsAfter false afterWord cs = wordsAfter false true cs := by
  cases cs with
  | nil => rfl
  | cons c cs =>
    have same : isKept false afterWord c cs = isKept false true c cs := by simp [isKept]
    cases kept : isKept false true c cs with
    | false => rw [wordsAfter_cons_of_dropped kept, wordsAfter_cons_of_dropped (same.trans kept)]
    | true => rw [wordsAfter_cons_of_kept kept, wordsAfter_cons_of_kept (same.trans kept)]

/-- Whether the first word of a text is a whole token with which the text starts. -/
def StartsWithToken (text : List Char) : Prop :=
  ∃ token rest, text = token ++ rest ∧ token ≠ [] ∧ WholeToken token rest ∧
    wordsAfter false true text = token :: wordsAfter false true rest

theorem wordsAfter_plain_cons {c : Char} {cs : List Char} (alphanumeric : isAlphanumeric c = true) :
    wordsAfter false true (c :: cs) =
      if goesOn false c cs then consFirst c (wordsAfter false true cs) else [c] :: wordsAfter false true cs := by
  rw [wordsAfter_cons_of_kept (isKept_of_isAlphanumeric false true cs alphanumeric), alphanumeric]

theorem startsWithToken_of_stops {c : Char} {cs : List Char} (ascii : ∀ e ∈ c :: cs, e.toNat < 128)
    (alphanumeric : isAlphanumeric c = true) (stops : goesOn false c cs = false) : StartsWithToken (c :: cs) := by
  refine ⟨[c], cs, rfl, List.cons_ne_nil c [], .single ascii alphanumeric stops, ?_⟩
  rw [wordsAfter_plain_cons alphanumeric, stops, if_neg Bool.false_ne_true]

theorem startsWithToken_of_goesOn {c : Char} {cs : List Char} (ascii : ∀ e ∈ c :: cs, e.toNat < 128)
    (alphanumeric : isAlphanumeric c = true) (goes : goesOn false c cs = true) (behind : StartsWithToken cs) :
    StartsWithToken (c :: cs) := by
  obtain ⟨token, rest, rfl, -, whole, words⟩ := behind
  refine ⟨c :: token, rest, rfl, List.cons_ne_nil c token, whole.cons ascii alphanumeric goes, ?_⟩
  rw [wordsAfter_plain_cons alphanumeric, if_pos goes, words, consFirst]

theorem startsWithToken {c : Char} {cs : List Char} (ascii : ∀ e ∈ c :: cs, e.toNat < 128)
    (alphanumeric : isAlphanumeric c = true) : StartsWithToken (c :: cs) := by
  -- The end of the token is found from behind: where the word goes on, its token is one longer than that of the rest.
  induction cs generalizing c with
  | nil => exact startsWithToken_of_stops ascii alphanumeric rfl
  | cons d cs ih =>
    cases goes : goesOn false c (d :: cs) with
    | false => exact startsWithToken_of_stops ascii alphanumeric goes
    | true =>
      have alphanumeric' : isAlphanumeric d = true := by
        rw [goesOn, Bool.and_eq_true] at goes
        simpa [isKept] using goes.1
      exact startsWithToken_of_goesOn ascii alphanumeric goes
        (ih (fun e member => ascii e (List.mem_cons_of_mem c member)) alphanumeric')

/-- The words of an ASCII text are its tokens. -/
theorem tokens_wordsAfter (text : List Char) (ascii : ∀ c ∈ text, c.toNat < 128) :
    Tokens wordRules text (wordsAfter false true text) := by
  -- On the length, because a token is taken as a whole.
  induction length : text.length using Nat.strongRecOn generalizing text with
  | ind n ih =>
    subst length
    cases text with
    | nil => exact .done
    | cons c cs =>
      cases alphanumeric : isAlphanumeric c with
      | true =>
        obtain ⟨token, rest, cut, filled, whole, words⟩ := startsWithToken ascii alphanumeric
        have shorter : rest.length < (c :: cs).length := by
          have := List.length_pos_iff.mpr filled
          rw [cut, List.length_append]
          omega
        have ascii' : ∀ e ∈ rest, e.toNat < 128 := by
          rw [cut] at ascii
          exact fun e member => ascii e (List.mem_append_right token member)
        rw [words]
        exact .take cut whole.firstMatch (ih rest.length shorter rest ascii' rfl)
      | false =>
        have dropped : isKept false true c cs = false := by simp [isKept, alphanumeric]
        have ascii' : ∀ e ∈ cs, e.toNat < 128 := fun e member => ascii e (List.mem_cons_of_mem c member)
        rw [wordsAfter_cons_of_dropped dropped, wordsAfter_plain]
        refine .skip ?_ (ih cs.length (Nat.lt_succ_self cs.length) cs ascii' rfl)
        rw [(classes_of_ascii (ascii c List.mem_cons_self)).1] at alphanumeric
        intro rule member matched
        rw [matched.isAlphanum member] at alphanumeric
        cases alphanumeric

theorem not_wordRules_nil {rule : TokenRule} (member : rule ∈ wordRules) (rest : List Char) : ¬ rule [] rest := by
  simp only [wordRules, List.mem_cons, List.not_mem_nil, or_false] at member
  rcases member with rfl | rfl | rfl
  · exact fun h => h.1.1 rfl
  · exact fun h => Capitalised.ne_nil h rfl
  · exact fun h => h.1 rfl

theorem Tokens.shape {text : List Char} {tokens : List (List Char)} (h : Tokens wordRules text tokens) :
    ∀ token ∈ tokens, Run Char.isUpper token ∨ Capitalised token ∨ Run Char.isDigit token := by
  induction h with
  | done => exact fun _ member => absurd member List.not_mem_nil
  | take _ first _ ih =>
    obtain ⟨rule, member, holds⟩ := first.exists_rule
    simp only [wordRules, List.mem_cons, List.not_mem_nil, or_false] at member
    refine List.forall_mem_cons.mpr ⟨?_, ih⟩
    rcases member with rfl | rfl | rfl
    · exact .inl holds.1
    · exact .inr (.inl holds)
    · exact .inr (.inr holds)
  | skip _ _ ih => exact ih

/-- The words of an ASCII text are its tokens: runs of capitals, runs of small letters with or without a capital in
front, and runs of digits. -/
theorem split_eq_tokens (text : String) (ascii : ∀ c ∈ text.toList, c.toNat < 128) :
    (∀ tokens, Tokens wordRules text.toList tokens ↔ split text false = tokens.map String.ofList) ∧
      ∀ word ∈ split text false,
        Run Char.isUpper word.toList ∨ Capitalised word.toList ∨ Run Char.isDigit word.toList := by
  have words : split text false = (wordsAfter false true text.toList).map String.ofList := by
    rw [split, splitChars_eq_wordsAfter, wordsAfter_plain]
  have own := tokens_wordsAfter text.toList ascii
  rw [words]
  refine ⟨?_, ?_⟩
  · intro tokens
    rw [List.map_inj_right fun _ _ same => String.ofList_injective same]
    constructor
    · exact own.unique fun rule member => not_wordRules_nil member
    · rintro rfl
      exact own
  · intro word member
    obtain ⟨token, listed, rfl⟩ := List.mem_map.mp member
    rw [String.toList_ofList]
    exact own.shape token listed

theorem split_eq_tokens_acronyms :
    (∀ c ∈ "getHTTPResponse2x_API".toList, c.toNat < 128) ∧
      Tokens wordRules "getHTTPResponse2x_API".toList
        (["get", "HTTP", "Response", "2", "x", "API"].map String.toList) := by
  have small : "getHTTPResponse2x_API".toList.all (·.toNat < 128) = true := by decide +kernel
  have ascii : ∀ c ∈ "getHTTPResponse2x_API".toList, c.toNat < 128 := by
    simpa only [List.all_eq_true, decide_eq_true_eq] using small
  exact ⟨ascii, ((split_eq_tokens _ ascii).1 _).mpr (by decide +kernel)⟩

end SpellLint.Word
