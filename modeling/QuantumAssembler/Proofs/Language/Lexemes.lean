import Mathlib.Data.Nat.Digits.Defs
import QuantumAssembler.Proofs.Language.WrittenForm

/-!
Module: QuantumAssembler.Proofs.Language.Lexemes
Purpose: The lexical grammar, and the division of a text judged by it. A lexeme is a maximal row of
  digits, a maximal word, or a row of bits in brackets; what it means is a token, or nothing if its
  number does not fit. A text is munched from front to back: a separator is passed over, a lexeme is
  taken where one begins, and a character at which none begins is illegal. There is one way to munch
  a text, and it gives the tokens and the diagnostics that are read from it.
Main exports: Writes, Decimal.valueOf_eq_ofDigits, WordMeans, Lexes, Munches, leading_of_lexes,
  leading_cases, segments_of_lexes, exists_munches, Munches.eq_placed, tokenizeSource_munches
-/

namespace QuantumAssembler

/-! ### Lexemes -/

/-- One or more decimal digits. -/
def IsNumeral (digits : List Char) : Prop :=
  digits ≠ [] ∧ ∀ d ∈ digits, IsDigit d

/-- The token that a row of digits gives; there is none if their number takes more than 64 bits. -/
inductive Writes (kind : Nat → TokenKind) (digits : List Char) : Option TokenKind → Prop where
  | fitting (small : Decimal.valueOf digits < Nat.pow 2 64) :
      Writes kind digits (some (kind (Decimal.valueOf digits)))
  | tooLarge (large : Nat.pow 2 64 ≤ Decimal.valueOf digits) : Writes kind digits none

/-- The number of a row of digits is the one that has their values as its decimal digits, the last
    of them as the least significant. -/
theorem Decimal.valueOf_eq_ofDigits (digits : List Char) :
    valueOf digits = Nat.ofDigits 10 (digits.map digitValue).reverse := by
  rw [Nat.ofDigits_eq_foldr, List.foldr_reverse, List.foldl_map]
  simp only [Nat.cast_id, Nat.add_comm]
  rfl

/-- The value of a digit is below ten, and it is written as this digit. -/
theorem Decimal.digitChar_digitValue {d : Char} (digit : IsDigit d) :
    digitValue d < 10 ∧ Nat.digitChar (digitValue d) = d := by
  have range : 48 ≤ d.toNat ∧ d.toNat ≤ 57 := digit
  have value : digitValue d = d.toNat - 48 := rfl
  have small : digitValue d < 10 := by omega
  refine ⟨small, ?_⟩
  apply Char.toNat_inj.mp
  rw [Nat.toNat_digitChar_of_lt_ten small]
  omega

/-- The token that a whole word gives, if its number fits. -/
inductive WordMeans : List Char → Option TokenKind → Prop where
  | reserved (k : Keyword) : WordMeans k.word.toList (some (.keyword k))
  | register {digits : List Char} {meaning : Option TokenKind} (numeral : IsNumeral digits)
      (writes : Writes .register digits meaning) : WordMeans ('R' :: digits) meaning
  | identity {digits : List Char} {meaning : Option TokenKind} (numeral : IsNumeral digits)
      (writes : Writes .identity digits meaning) : WordMeans ('I' :: digits) meaning
  | name {word : List Char} (free : IsVariableName (String.ofList word)) :
      WordMeans word (some (.name (String.ofList word)))

/-- A lexeme in front of the rest of a text, and the token that it gives, if its number fits. Rows of
    digits and words go on as far as they can. -/
inductive Lexes : List Char → List Char → Option TokenKind → Prop where
  | number {run behind : List Char} {meaning : Option TokenKind} (numeral : IsNumeral run)
      (maximal : ∀ c ∈ behind.head?, ¬ IsDigit c) (writes : Writes .number run meaning) :
      Lexes run behind meaning
  | word {run behind : List Char} {meaning : Option TokenKind} (identifier : IsIdentifier run)
      (maximal : ∀ c ∈ behind.head?, ¬ (IsLetter c ∨ IsDigit c)) (means : WordMeans run meaning) :
      Lexes run behind meaning
  | bits {bits : String} {behind : List Char} (string : IsBitString bits) :
      Lexes ('[' :: bits.toList ++ [']']) behind (some (.bits bits))

/-- The text from the place `p` on, munched from front to back: the tokens and the diagnostics that
    it gives. -/
inductive Munches : Position → List Char → List Token → List Diagnostic → Prop where
  | done (p : Position) : Munches p [] [] []
  | separator {p : Position} {c : Char} {cs : List Char} {tokens : List Token}
      {diagnostics : List Diagnostic} (blank : c = ' ' ∨ c = '\t' ∨ c = '\r' ∨ c = '\n')
      (rest : Munches (p.next c) cs tokens diagnostics) : Munches p (c :: cs) tokens diagnostics
  | token {p : Position} {run behind : List Char} {kind : TokenKind} {tokens : List Token}
      {diagnostics : List Diagnostic} (lexeme : Lexes run behind (some kind))
      (rest : Munches (p.after run) behind tokens diagnostics) :
      Munches p (run ++ behind) (⟨kind, String.ofList run, p⟩ :: tokens) diagnostics
  | tooLarge {p : Position} {run behind : List Char} {tokens : List Token}
      {diagnostics : List Diagnostic} (lexeme : Lexes run behind none)
      (rest : Munches (p.after run) behind tokens diagnostics) :
      Munches p (run ++ behind) tokens (⟨.numberTooLarge run, p⟩ :: diagnostics)
  | illegal {p : Position} {c : Char} {cs : List Char} {tokens : List Token}
      {diagnostics : List Diagnostic} (solid : ¬ (c = ' ' ∨ c = '\t' ∨ c = '\r' ∨ c = '\n'))
      (foreign : ∀ run behind meaning, Lexes run behind meaning → c :: cs ≠ run ++ behind)
      (rest : Munches (p.next c) cs tokens diagnostics) :
      Munches p (c :: cs) tokens (⟨.illegalCharacter c, p⟩ :: diagnostics)

/-! ### What segments are -/

theorem isBlank_iff {c : Char} : isBlank c = true ↔ c = ' ' ∨ c = '\t' ∨ c = '\r' ∨ c = '\n' := by
  simp [isBlank, or_assoc]

/-- The segment of a lexeme: a token if it gives one, and else a rejected number. -/
def Segment.ofLexeme (run : List Char) : Option TokenKind → Segment
  | some kind => .lexeme kind run
  | none => .rejected (.numberTooLarge run)

theorem Segment.text_ofLexeme (run : List Char) (meaning : Option TokenKind) :
    (ofLexeme run meaning).text = run := by
  cases meaning <;> rfl

theorem numbered_of_writes {kind : Nat → TokenKind} {digits : List Char}
    {meaning : Option TokenKind} (writes : Writes kind digits meaning) (literal : List Char) :
    numbered kind digits literal = .ofLexeme literal meaning := by
  unfold numbered numeral? numeralBound
  cases writes with
  | fitting small => rw [if_pos small]; rfl
  | tooLarge large => rw [if_neg (Nat.not_lt.mpr large)]; rfl

theorem exists_writes (kind : Nat → TokenKind) (digits : List Char) :
    ∃ meaning, Writes kind digits meaning := by
  rcases Nat.lt_or_ge (Decimal.valueOf digits) (Nat.pow 2 64) with small | large
  · exact ⟨_, .fitting small⟩
  · exact ⟨_, .tooLarge large⟩

theorem IsNumeral.digitsBehind? {digits : List Char} (numeral : IsNumeral digits) (initial : Char) :
    digitsBehind? initial (initial :: digits) = some digits :=
  digitsBehind?_eq_some_iff.mpr ⟨numeral.1, numeral.2, rfl⟩

/-- A word is the segment of what it means. -/
theorem wordSegment_of_means {word : List Char} {meaning : Option TokenKind}
    (means : WordMeans word meaning) : wordSegment word = .ofLexeme word meaning := by
  cases means with
  | reserved k => exact wordSegment_keyword k
  | @register digits _ numeral writes =>
      have numbered : NumberedBy 'R' ('R' :: digits) := ⟨digits, numeral.1, numeral.2, rfl⟩
      rw [wordSegment, Keyword.ofWord?_of_numberedBy numbered]
      simp only [numeral.digitsBehind? 'R']
      exact numbered_of_writes writes _
  | @identity digits _ numeral writes =>
      have numbered : NumberedBy 'I' ('I' :: digits) := ⟨digits, numeral.1, numeral.2, rfl⟩
      have noRegister : digitsBehind? 'R' ('I' :: digits) = none := by
        rw [digitsBehind?_eq_none_iff]
        rintro ⟨_, -, -, whole⟩
        cases whole
      rw [wordSegment, Keyword.ofWord?_of_numberedBy numbered]
      simp only [noRegister, numeral.digitsBehind? 'I']
      exact numbered_of_writes writes _
  | name free =>
      have segment := wordSegment_name free
      rwa [String.toList_ofList] at segment

/-- Every identifier means something, a token or a number that does not fit. -/
theorem exists_wordMeans {word : List Char} (identifier : IsIdentifier word) :
    ∃ meaning, WordMeans word meaning := by
  by_cases unreserved : String.ofList word ∈ Keyword.all.map Keyword.word
  · obtain ⟨k, -, same⟩ := List.mem_map.mp unreserved
    obtain rfl : word = k.word.toList := by rw [same, String.toList_ofList]
    exact ⟨_, .reserved k⟩
  by_cases register : NumberedBy 'R' word
  · obtain ⟨digits, some, all, rfl⟩ := register
    obtain ⟨meaning, writes⟩ := exists_writes .register digits
    exact ⟨meaning, .register ⟨some, all⟩ writes⟩
  by_cases identity : NumberedBy 'I' word
  · obtain ⟨digits, some, all, rfl⟩ := identity
    obtain ⟨meaning, writes⟩ := exists_writes .identity digits
    exact ⟨meaning, .identity ⟨some, all⟩ writes⟩
  · exact ⟨_, .name ⟨by rwa [String.toList_ofList], unreserved, by rwa [String.toList_ofList],
      by rwa [String.toList_ofList]⟩⟩

/-! ### The leading segment -/

/-- A lexeme is the leading segment of the text that it begins. -/
theorem leading_of_lexes {run behind : List Char} {meaning : Option TokenKind}
    (lexeme : Lexes run behind meaning) {c : Char} {rest : List Char}
    (whole : c :: rest = run ++ behind) : leading c rest = .ofLexeme run meaning := by
  cases lexeme with
  | number numeral maximal writes =>
      obtain ⟨some, all⟩ := numeral
      cases run with
      | nil => exact absurd rfl some
      | cons d run =>
          obtain ⟨rfl, rfl⟩ : c = d ∧ rest = run ++ behind := List.cons.inj whole
          have front : (run ++ behind).takeWhile Char.isDigit = run :=
            takeWhile_append_of_head
              (fun d member => isDigit_iff.mpr (all d (List.mem_cons_of_mem c member)))
              (fun d first => by simpa [← isDigit_iff] using maximal d first)
          rw [leading_of_isDigit (all c List.mem_cons_self), front]
          exact numbered_of_writes writes _
  | word identifier maximal means =>
      cases run with
      | nil => cases identifier
      | cons d run =>
          obtain ⟨rfl, rfl⟩ : c = d ∧ rest = run ++ behind := List.cons.inj whole
          obtain ⟨letter, parts⟩ := identifier
          have front : (run ++ behind).takeWhile isWordPart = run :=
            takeWhile_append_of_head
              (fun d member => isWordPart_iff.mpr (parts d member))
              (fun d first => by simpa [← isWordPart_iff] using maximal d first)
          rw [leading_of_isLetter letter, front]
          exact wordSegment_of_means means
  | @bits bits _ string =>
      obtain ⟨rfl, rfl⟩ : c = '[' ∧ rest = bits.toList ++ [']'] ++ behind := List.cons.inj whole
      rw [List.append_assoc, List.singleton_append, leading, if_neg (by decide), if_pos rfl]
      simp only [bitsAhead?_append string behind, String.ofList_toList]
      rfl

/-- A row of digits is a lexeme as far as it goes. -/
theorem exists_lexes_of_isDigit {c : Char} (digit : IsDigit c) (rest : List Char) :
    ∃ meaning, Lexes (c :: rest.takeWhile Char.isDigit) (rest.dropWhile Char.isDigit) meaning := by
  obtain ⟨meaning, writes⟩ := exists_writes .number (c :: rest.takeWhile Char.isDigit)
  refine ⟨meaning, .number ⟨List.cons_ne_nil _ _, ?_⟩ ?_ writes⟩
  · intro d member
    rcases List.mem_cons.mp member with rfl | later
    · exact digit
    · exact isDigit_iff.mp (List.mem_takeWhile_imp later)
  · intro d first more
    exact absurd (isDigit_iff.mpr more) (by simp [head_dropWhile rest d first])

/-- A word is a lexeme as far as it goes. -/
theorem exists_lexes_of_isLetter {c : Char} (letter : IsLetter c) (rest : List Char) :
    ∃ meaning, Lexes (c :: rest.takeWhile isWordPart) (rest.dropWhile isWordPart) meaning := by
  have identifier : IsIdentifier (c :: rest.takeWhile isWordPart) :=
    ⟨letter, fun _ member => isWordPart_iff.mp (List.mem_takeWhile_imp member)⟩
  obtain ⟨meaning, means⟩ := exists_wordMeans identifier
  refine ⟨meaning, .word identifier ?_ means⟩
  intro d first more
  exact absurd (isWordPart_iff.mpr more) (by simp [head_dropWhile rest d first])

/-- The leading segment is a separator, a lexeme, or an illegal character that is no separator. -/
theorem leading_cases (c : Char) (rest : List Char) :
    (isBlank c = true ∧ leading c rest = .blank c) ∨
      (∃ run behind meaning, Lexes run behind meaning ∧ c :: rest = run ++ behind) ∨
      (isBlank c = false ∧ leading c rest = .rejected (.illegalCharacter c)) := by
  by_cases blank : isBlank c = true
  · exact .inl ⟨blank, by rw [leading, if_pos blank]⟩
  by_cases digit : IsDigit c
  · obtain ⟨meaning, lexeme⟩ := exists_lexes_of_isDigit digit rest
    exact .inr (.inl ⟨_, _, meaning, lexeme, by simp [List.takeWhile_append_dropWhile]⟩)
  by_cases letter : IsLetter c
  · obtain ⟨meaning, lexeme⟩ := exists_lexes_of_isLetter letter rest
    exact .inr (.inl ⟨_, _, meaning, lexeme, by simp [List.takeWhile_append_dropWhile]⟩)
  have noDigit : ¬ c.isDigit = true := fun more => digit (isDigit_iff.mp more)
  have noStart : ¬ isWordStart c = true := fun more => letter (isWordStart_iff.mp more)
  by_cases bracket : c = '['
  · subst bracket
    cases ahead : bitsAhead? rest with
    | none => exact .inr (.inr ⟨by decide, by simp [leading, ahead, isBlank]⟩)
    | some digits =>
        obtain ⟨behind, rfl⟩ := eq_append_of_bitsAhead? ahead
        exact .inr (.inl ⟨_, behind, _, .bits (isBitString_of_bitsAhead? ahead), by simp⟩)
  · exact .inr (.inr ⟨by simpa using blank, by
      rw [leading, if_neg blank, if_neg bracket, if_neg noDigit, if_neg noStart]⟩)

/-! ### The division -/

theorem Lexes.ne_nil {run behind : List Char} {meaning : Option TokenKind}
    (lexeme : Lexes run behind meaning) : run ≠ [] := by
  cases lexeme with
  | number numeral => exact numeral.1
  | word identifier =>
      rintro rfl
      exact identifier
  | bits => exact List.cons_ne_nil _ _

/-- A lexeme is a segment, and what stands behind it is divided on its own. -/
theorem segments_of_lexes {run behind : List Char} {meaning : Option TokenKind}
    (lexeme : Lexes run behind meaning) :
    segments (run ++ behind) = .ofLexeme run meaning :: segments behind := by
  cases whole : run ++ behind with
  | nil => exact absurd (List.append_eq_nil_iff.mp whole).1 lexeme.ne_nil
  | cons c rest =>
      rw [segments, leading_of_lexes lexeme whole.symm, Segment.text_ofLexeme, ← whole,
        List.drop_left]

/-- So is a character that is no separator and at which no lexeme begins. -/
theorem segments_of_foreign {c : Char} {cs : List Char} (solid : isBlank c = false)
    (foreign : ∀ run behind meaning, Lexes run behind meaning → c :: cs ≠ run ++ behind) :
    segments (c :: cs) = .rejected (.illegalCharacter c) :: segments cs := by
  rcases leading_cases c cs with ⟨blank, -⟩ | ⟨run, behind, meaning, lexeme, whole⟩ | ⟨-, first⟩
  · simp [solid] at blank
  · exact absurd whole (foreign run behind meaning lexeme)
  · rw [segments, first]
    rfl

/-- No lexeme begins with an illegal character. -/
theorem ne_append_of_leading {c : Char} {cs : List Char}
    (illegal : leading c cs = .rejected (.illegalCharacter c)) (run behind : List Char)
    (meaning : Option TokenKind) (lexeme : Lexes run behind meaning) : c :: cs ≠ run ++ behind := by
  intro whole
  rw [leading_of_lexes lexeme whole] at illegal
  cases meaning <;> cases illegal

/-! ### Munching -/

/-- Every text can be munched. -/
theorem exists_munches (p : Position) (cs : List Char) :
    ∃ tokens diagnostics, Munches p cs tokens diagnostics := by
  -- What stands behind the leading segment is shorter.
  induction length : cs.length using Nat.strong_induction_on generalizing p cs with
  | _ n ih =>
  subst length
  cases cs with
  | nil => exact ⟨[], [], .done p⟩
  | cons c rest =>
      rcases leading_cases c rest with
        ⟨blank, -⟩ | ⟨run, behind, meaning, lexeme, whole⟩ | ⟨solid, illegal⟩
      · obtain ⟨tokens, diagnostics, others⟩ := ih _ (Nat.lt_succ_self _) (p.next c) rest rfl
        exact ⟨tokens, diagnostics, .separator (isBlank_iff.mp blank) others⟩
      · rw [whole] at ih ⊢
        have shorter : behind.length < (run ++ behind).length := by
          rw [List.length_append]
          exact Nat.lt_add_of_pos_left (List.length_pos_iff.mpr lexeme.ne_nil)
        obtain ⟨tokens, diagnostics, others⟩ := ih _ shorter (p.after run) behind rfl
        cases meaning with
        | some kind => exact ⟨_, _, .token lexeme others⟩
        | none => exact ⟨_, _, .tooLarge lexeme others⟩
      · obtain ⟨tokens, diagnostics, others⟩ := ih _ (Nat.lt_succ_self _) (p.next c) rest rfl
        refine ⟨_, _, .illegal ?_ (ne_append_of_leading illegal) others⟩
        rw [← isBlank_iff, solid]
        exact Bool.false_ne_true

/-- However a text is munched, that gives the tokens and the diagnostics of its segments. -/
theorem Munches.eq_placed {p : Position} {cs : List Char} {tokens : List Token}
    {diagnostics : List Diagnostic} (munches : Munches p cs tokens diagnostics) :
    tokens = (placed p (segments cs)).filterMap tokenAt? ∧
      diagnostics = (placed p (segments cs)).filterMap diagnosticAt? := by
  induction munches with
  | done p => simp [segments, placed]
  | @separator p c cs _ _ blank rest ih =>
      have first := segments_append_cons (isBlank_iff.mpr blank) [] cs
      rw [List.nil_append, segments, List.nil_append] at first
      rw [first]
      exact ih
  | token lexeme rest ih =>
      rw [segments_of_lexes lexeme]
      exact ⟨congrArg (_ :: ·) ih.1, ih.2⟩
  | tooLarge lexeme rest ih =>
      rw [segments_of_lexes lexeme]
      exact ⟨ih.1, congrArg (_ :: ·) ih.2⟩
  | @illegal p c cs _ _ solid foreign rest ih =>
      have solid : isBlank c = false := by simpa [← isBlank_iff] using solid
      rw [segments_of_foreign solid foreign]
      exact ⟨ih.1, congrArg (_ :: ·) ih.2⟩

/-- What is munched from a text is tokenized, with an end token behind it. -/
theorem Munches.tokenize_eq {cs : List Char} {tokens : List Token} {diagnostics : List Diagnostic}
    (munches : Munches .start cs tokens diagnostics) :
    tokenize cs = (tokens ++ [.atEnd (Position.start.after cs)], diagnostics) := by
  obtain ⟨rfl, rfl⟩ := munches.eq_placed
  exact tokenize_eq_placed cs

/-- The tokens of a source, an end token behind them, and its diagnostics are what munching its
    normal form gives, and nothing else can be munched from it. -/
theorem tokenizeSource_munches [NormalForm] (source : String) :
    ∃ inner e, (tokenizeSource source).1 = inner ++ [e] ∧ e.isEnd = true ∧
      ∀ tokens diagnostics,
        Munches .start (NormalForm.normalize source.toList) tokens diagnostics ↔
          tokens = inner ∧ diagnostics = (tokenizeSource source).2 := by
  obtain ⟨inner, diagnostics, munches⟩ :=
    exists_munches .start (NormalForm.normalize source.toList)
  have whole : tokenizeSource source = _ := munches.tokenize_eq
  rw [whole]
  refine ⟨inner, _, rfl, rfl, fun tokens others => ⟨fun other => ?_, ?_⟩⟩
  · obtain ⟨rfl, rfl⟩ := munches.eq_placed
    exact other.eq_placed
  · rintro ⟨rfl, rfl⟩
    exact munches

-- Words go on as far as they can, and digits that a word does not begin with are a number.
example : (tokenizeSource "12R1x[01]I007").1.map Token.kind =
    [.number 12, .name "R1x", .bits "01", .identity 7, .endOfInput] := by
  decide +kernel

end QuantumAssembler
