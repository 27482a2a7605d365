import QuantumAssembler.Proofs.Language.WellFormed
import QuantumAssembler.Proofs.Unicode.Normalization

/-!
Module: QuantumAssembler.Proofs.Language.WrittenForm
Purpose: The written forms of an instruction, and the reading of them. The tokens of its sentence are
  spelled out one after the other, with gaps of any length between them and around the whole. Every
  written form of a well-formed instruction reads back as this instruction, without a diagnostic;
  so the instructions that are read from some text are the well-formed ones. Written forms are of
  ASCII characters, so the normal form has to keep these and nothing else is asked of it.
Main exports: TokenKind.spelling, leading_of_isLetter, leading_of_isDigit, bitsAhead?_append,
  segments_spelling, IsGap, LaidOut, LaidOut.filterMap_segments,
  Instruction.WrittenAs, readLine_of_writtenAs, exists_writtenAs, readLine_reads_wellFormed
-/

namespace QuantumAssembler

/-- How a kind of token is spelled. -/
def TokenKind.spelling : TokenKind → String
  | .register index => "R" ++ toString index
  | .identity size => "I" ++ toString size
  | .bits digits => "[" ++ digits ++ "]"
  | .number value => toString value
  | .name spelling => spelling
  | .keyword k => k.word
  | .endOfInput => ""

/-- The segment that a token in its spelling makes up. -/
def TokenKind.segment (k : TokenKind) : Segment :=
  .lexeme k k.spelling.toList

/-! ### Decimal numbers -/

theorem toList_toString (n : Nat) : (toString n).toList = Nat.toDigits 10 n := by
  rw [Nat.toString_eq_ofList_toDigits, String.toList_ofList]

namespace TokenKind

theorem toList_spelling_register (index : Nat) :
    (register index).spelling.toList = 'R' :: Nat.toDigits 10 index := by
  rw [spelling, String.toList_append, toList_toString]
  rfl

theorem toList_spelling_identity (size : Nat) :
    (identity size).spelling.toList = 'I' :: Nat.toDigits 10 size := by
  rw [spelling, String.toList_append, toList_toString]
  rfl

theorem toList_spelling_bits (digits : String) :
    (bits digits).spelling.toList = '[' :: digits.toList ++ [']'] := by
  rw [spelling, String.toList_append, String.toList_append]
  rfl

theorem toList_spelling_number (value : Nat) :
    (number value).spelling.toList = Nat.toDigits 10 value :=
  toList_toString value

end TokenKind

theorem isDigit_of_mem_toDigits {n : Nat} : ∀ d ∈ Nat.toDigits 10 n, IsDigit d := by
  intro d member
  exact isDigit_iff.mp (Nat.isDigit_of_mem_toDigits (by decide) (by decide) member)

/-- The digits of a number that fits write this number. -/
theorem numbered_toDigits (kind : Nat → TokenKind) {n : Nat} (fits : IsNumber n)
    (literal : List Char) :
    numbered kind (Nat.toDigits 10 n) literal = .lexeme (kind n) literal := by
  have value : Decimal.valueOf (Nat.toDigits 10 n) = n := Nat.ofDigitChars_ten_toDigits
  rw [numbered, numeral?_eq_some_iff.mpr ⟨value, fits⟩]

/-! ### Words -/

theorem not_isDigit_of_isLetter {c : Char} (letter : IsLetter c) : ¬ IsDigit c := by
  intro digit
  obtain ⟨-, digit⟩ := digit
  rcases letter with rfl | ⟨low, -⟩ | ⟨low, -⟩
  · exact absurd digit (by decide)
  · exact absurd (Char.le_trans low digit) (by decide)
  · exact absurd (Char.le_trans low digit) (by decide)

theorem leading_of_isLetter {c : Char} (letter : IsLetter c) (rest : List Char) :
    leading c rest = wordSegment (c :: rest.takeWhile isWordPart) := by
  have noBlank : isBlank c = false :=
    isBlank_eq_false_of_isWordPart (isWordPart_iff.mpr (.inl letter))
  have noBracket : c ≠ '[' := by
    rintro rfl
    exact absurd letter (by decide)
  have noDigit : ¬ c.isDigit = true := fun digit =>
    not_isDigit_of_isLetter letter (isDigit_iff.mp digit)
  rw [leading, if_neg (by simp [noBlank]), if_neg noBracket, if_neg noDigit,
    if_pos (isWordStart_iff.mpr letter)]

/-- An identifier is one segment. -/
theorem segments_of_isIdentifier {word : List Char} (identifier : IsIdentifier word) :
    segments word = [wordSegment word] := by
  cases word with
  | nil => cases identifier
  | cons c rest =>
      obtain ⟨letter, parts⟩ := identifier
      have whole : rest.takeWhile isWordPart = rest :=
        List.takeWhile_eq_self_iff.mpr fun d member => isWordPart_iff.mpr (parts d member)
      have first : leading c rest = wordSegment (c :: rest) := by
        rw [leading_of_isLetter letter, whole]
      exact segments_of_leading first (text_wordSegment _)

theorem wordSegment_keyword (k : Keyword) :
    wordSegment k.word.toList = .lexeme (.keyword k) k.word.toList := by
  simp [wordSegment, Keyword.ofWord?_word]

theorem isIdentifier_word (k : Keyword) : IsIdentifier k.word.toList := by
  cases k <;> decide

/-- No reserved word is a character with a number behind it. -/
theorem Keyword.not_numberedBy (k : Keyword) (initial : Char) :
    ¬ NumberedBy initial k.word.toList := by
  intro numbered
  obtain ⟨digits, more, all, whole⟩ := numbered
  obtain rfl : digits = k.word.toList.tail := by
    rw [whole]
    rfl
  cases k <;> simp [word, IsDigit] at more all

theorem Keyword.ofWord?_of_numberedBy {initial : Char} {word : List Char}
    (numbered : NumberedBy initial word) : ofWord? (String.ofList word) = none := by
  rw [ofWord?_eq_none_iff]
  intro member
  obtain ⟨k, -, same⟩ := List.mem_map.mp member
  apply k.not_numberedBy initial
  rwa [same, String.toList_ofList]

theorem digitsBehind?_toDigits (initial : Char) (n : Nat) :
    digitsBehind? initial (initial :: Nat.toDigits 10 n) = some (Nat.toDigits 10 n) :=
  digitsBehind?_eq_some_iff.mpr ⟨Nat.toDigits_ne_nil, isDigit_of_mem_toDigits, rfl⟩

theorem numberedBy_toDigits (initial : Char) (n : Nat) :
    NumberedBy initial (initial :: Nat.toDigits 10 n) :=
  ⟨_, digitsBehind?_eq_some_iff.mp (digitsBehind?_toDigits initial n)⟩

theorem isIdentifier_toDigits {initial : Char} (letter : IsLetter initial) (n : Nat) :
    IsIdentifier (initial :: Nat.toDigits 10 n) :=
  ⟨letter, fun d member => .inr (isDigit_of_mem_toDigits d member)⟩

theorem wordSegment_register {index : Nat} (fits : IsNumber index) :
    wordSegment ('R' :: Nat.toDigits 10 index) =
      .lexeme (.register index) ('R' :: Nat.toDigits 10 index) := by
  rw [wordSegment, Keyword.ofWord?_of_numberedBy (numberedBy_toDigits 'R' index)]
  simp only [digitsBehind?_toDigits]
  exact numbered_toDigits .register fits _

theorem wordSegment_identity {size : Nat} (fits : IsNumber size) :
    wordSegment ('I' :: Nat.toDigits 10 size) =
      .lexeme (.identity size) ('I' :: Nat.toDigits 10 size) := by
  have noRegister : digitsBehind? 'R' ('I' :: Nat.toDigits 10 size) = none := by
    rw [digitsBehind?_eq_none_iff]
    intro numbered
    obtain ⟨digits, -, -, whole⟩ := numbered
    cases whole
  rw [wordSegment, Keyword.ofWord?_of_numberedBy (numberedBy_toDigits 'I' size)]
  simp only [noRegister, digitsBehind?_toDigits]
  exact numbered_toDigits .identity fits _

theorem wordSegment_name {name : String} (free : IsVariableName name) :
    wordSegment name.toList = .lexeme (.name name) name.toList := by
  rw [wordSegment, String.ofList_toList, Keyword.ofWord?_eq_none_iff.mpr free.unreserved]
  simp only [digitsBehind?_eq_none_iff.mpr free.noRegister,
    digitsBehind?_eq_none_iff.mpr free.noIdentity]

/-! ### Tokens -/

theorem leading_of_isDigit {c : Char} (digit : IsDigit c) (rest : List Char) :
    leading c rest =
      numbered .number (c :: rest.takeWhile Char.isDigit) (c :: rest.takeWhile Char.isDigit) := by
  have noBlank : isBlank c = false :=
    isBlank_eq_false_of_isWordPart (isWordPart_iff.mpr (.inr digit))
  have noBracket : c ≠ '[' := by
    rintro rfl
    exact absurd digit (by decide)
  rw [leading, if_neg (by simp [noBlank]), if_neg noBracket, if_pos (isDigit_iff.mpr digit)]

theorem segments_toDigits {n : Nat} (fits : IsNumber n) :
    segments (Nat.toDigits 10 n) = [.lexeme (.number n) (Nat.toDigits 10 n)] := by
  have digits := isDigit_of_mem_toDigits (n := n)
  cases whole : Nat.toDigits 10 n with
  | nil => exact absurd whole Nat.toDigits_ne_nil
  | cons d rest =>
      rw [whole] at digits
      have others : rest.takeWhile Char.isDigit = rest := List.takeWhile_eq_self_iff.mpr
        fun e member => isDigit_iff.mpr (digits e (List.mem_cons_of_mem d member))
      have first : leading d rest = .lexeme (.number n) (d :: rest) := by
        rw [leading_of_isDigit (digits d List.mem_cons_self), others, ← whole]
        exact numbered_toDigits .number fits _
      exact segments_of_leading first rfl

/-- The bits of a bit-string and its closing bracket stand ahead of its opening bracket. -/
theorem bitsAhead?_append {bits : String} (string : IsBitString bits) (behind : List Char) :
    bitsAhead? (bits.toList ++ ']' :: behind) = some bits.toList := by
  obtain ⟨more, all⟩ := string
  have accepted : ∀ c ∈ bits.toList, isBit c = true := by
    intro c member
    simpa [isBit] using all c member
  rw [bitsAhead?, takeWhile_append_of_head accepted (by simp [isBit]),
    List.dropWhile_append_of_pos accepted]
  simp [isBit, more]

theorem segments_bits {bits : String} (string : IsBitString bits) :
    segments ('[' :: bits.toList ++ [']']) =
      [.lexeme (.bits bits) ('[' :: bits.toList ++ [']'])] := by
  have found := bitsAhead?_append string []
  have first : leading '[' (bits.toList ++ [']']) =
      .lexeme (.bits bits) ('[' :: bits.toList ++ [']']) := by
    rw [leading, if_neg (by decide), if_pos rfl, found]
    simp only [String.ofList_toList]
  exact segments_of_leading first rfl

/-- The spelling of a well-formed kind is divided into one token of this kind. -/
theorem segments_spelling {k : TokenKind} (wellFormed : k.WellFormed) :
    segments k.spelling.toList = [k.segment] := by
  rw [TokenKind.segment]
  cases k with
  | register index =>
      rw [TokenKind.toList_spelling_register, ← wordSegment_register wellFormed,
        segments_of_isIdentifier (isIdentifier_toDigits (by decide) index)]
  | identity size =>
      rw [TokenKind.toList_spelling_identity, ← wordSegment_identity wellFormed,
        segments_of_isIdentifier (isIdentifier_toDigits (by decide) size)]
  | bits digits =>
      rw [TokenKind.toList_spelling_bits, segments_bits wellFormed]
  | number value =>
      rw [TokenKind.toList_spelling_number, segments_toDigits wellFormed]
  | name spelling =>
      rw [TokenKind.spelling, segments_of_isIdentifier wellFormed.identifier,
        wordSegment_name wellFormed]
  | keyword k =>
      rw [TokenKind.spelling, segments_of_isIdentifier (isIdentifier_word k),
        wordSegment_keyword k]
  | endOfInput => cases wellFormed

/-! ### Written forms -/

/-- A row of spaces, tabs, carriage returns and line feeds. -/
def IsGap (gap : List Char) : Prop :=
  ∀ c ∈ gap, c = ' ' ∨ c = '\t' ∨ c = '\r' ∨ c = '\n'

/-- Tokens of the given kinds, spelled out in order: there is a gap behind each of them, which may be
    empty only behind the last. -/
inductive LaidOut : List TokenKind → List Char → Prop where
  | last (k : TokenKind) {behind : List Char} (gap : IsGap behind) :
      LaidOut [k] (k.spelling.toList ++ behind)
  | next (k : TokenKind) {gap rest : List Char} {ks : List TokenKind} (some : gap ≠ [])
      (blank : IsGap gap) (others : LaidOut ks rest) :
      LaidOut (k :: ks) (k.spelling.toList ++ gap ++ rest)

/-- A source that spells out the sentence of an instruction, with a gap in front that may be empty.
    -/
def Instruction.WrittenAs (i : Instruction) (source : String) : Prop :=
  ∃ front text, IsGap front ∧ LaidOut i.sentence text ∧ source.toList = front ++ text

theorem IsGap.isBlank {gap : List Char} (blank : IsGap gap) : ∀ b ∈ gap, isBlank b = true := by
  intro b member
  simpa [QuantumAssembler.isBlank, or_assoc] using blank b member

section Drawing

variable {α : Type} {f : Segment → Option α} (separators : ∀ c, f (.blank c) = none)

include separators

/-- A gap in front of a text adds nothing but separators. -/
theorem IsGap.filterMap_segments_append {gap : List Char} (blank : IsGap gap)
    (rest : List Char) : (segments (gap ++ rest)).filterMap f = (segments rest).filterMap f := by
  have none : (gap.map Segment.blank).filterMap f = [] := by
    simp [separators]
  rw [segments_append_of_blank blank.isBlank, List.filterMap_append, none, List.nil_append]

/-- A gap that is not empty cuts a text. -/
theorem IsGap.filterMap_segments_cut {gap : List Char} (blank : IsGap gap) (some : gap ≠ [])
    (before behind : List Char) :
    (segments (before ++ gap ++ behind)).filterMap f =
      (segments before).filterMap f ++ (segments behind).filterMap f := by
  cases gap with
  | nil => exact absurd rfl some
  | cons b rest =>
      have others : IsGap rest := fun c member => blank c (List.mem_cons_of_mem b member)
      rw [List.append_assoc, List.cons_append,
        segments_append_cons (blank.isBlank b List.mem_cons_self), List.filterMap_append,
        List.filterMap_cons_none (separators b), others.filterMap_segments_append separators]

/-- What is drawn from the segments of tokens that are laid out is drawn from these tokens. -/
theorem LaidOut.filterMap_segments {ks : List TokenKind} {cs : List Char} (laid : LaidOut ks cs)
    (wellFormed : ∀ k ∈ ks, k.WellFormed) :
    (segments cs).filterMap f = (ks.map TokenKind.segment).filterMap f := by
  induction laid with
  | @last k behind gap =>
      have first := segments_spelling (wellFormed k List.mem_cons_self)
      by_cases none : behind = []
      · rw [none, List.append_nil, first, List.map_singleton]
      · have cut := gap.filterMap_segments_cut separators none k.spelling.toList []
        rwa [List.append_nil, first, segments, List.filterMap_nil, List.append_nil] at cut
  | @next k gap rest ks some blank others ih =>
      have first := segments_spelling (wellFormed k List.mem_cons_self)
      rw [blank.filterMap_segments_cut separators some, first,
        ih fun l member => wellFormed l (List.mem_cons_of_mem k member), ← List.filterMap_append]
      rfl

end Drawing

/-! ### Characters of written forms -/

theorem isAscii_of_le {c : Char} (low : c ≤ 'z') : Text.IsAscii c := by
  have small : c.toNat ≤ 'z'.toNat := low
  exact Nat.lt_of_le_of_lt small (by decide)

theorem isAscii_of_isDigit {c : Char} (digit : IsDigit c) : Text.IsAscii c :=
  isAscii_of_le (Char.le_trans digit.2 (by decide))

theorem isAscii_of_isLetter {c : Char} (letter : IsLetter c) : Text.IsAscii c := by
  rcases letter with rfl | ⟨-, high⟩ | ⟨-, high⟩
  · decide
  · exact isAscii_of_le (Char.le_trans high (by decide))
  · exact isAscii_of_le high

theorem isAscii_of_isIdentifier {word : List Char} (identifier : IsIdentifier word) :
    ∀ c ∈ word, Text.IsAscii c := by
  cases word with
  | nil => cases identifier
  | cons c rest =>
      obtain ⟨letter, parts⟩ := identifier
      intro d member
      rcases List.mem_cons.mp member with rfl | member
      · exact isAscii_of_isLetter letter
      · rcases parts d member with letter | digit
        · exact isAscii_of_isLetter letter
        · exact isAscii_of_isDigit digit

theorem isAscii_of_mem_spelling {k : TokenKind} (wellFormed : k.WellFormed) :
    ∀ c ∈ k.spelling.toList, Text.IsAscii c := by
  cases k with
  | register index =>
      rw [TokenKind.toList_spelling_register]
      exact isAscii_of_isIdentifier (isIdentifier_toDigits (by decide) index)
  | identity size =>
      rw [TokenKind.toList_spelling_identity]
      exact isAscii_of_isIdentifier (isIdentifier_toDigits (by decide) size)
  | bits digits =>
      rw [TokenKind.toList_spelling_bits]
      intro c member
      simp only [List.cons_append, List.mem_cons, List.mem_append, List.not_mem_nil,
        or_false] at member
      rcases member with rfl | member | rfl
      · decide
      · rcases wellFormed.2 c member with rfl | rfl
        · decide
        · decide
      · decide
  | number value =>
      rw [TokenKind.toList_spelling_number]
      intro c member
      exact isAscii_of_isDigit (isDigit_of_mem_toDigits c member)
  | name spelling => exact isAscii_of_isIdentifier wellFormed.identifier
  | keyword k => exact isAscii_of_isIdentifier (isIdentifier_word k)
  | endOfInput => cases wellFormed

theorem IsGap.isAscii {gap : List Char} (blank : IsGap gap) :
    ∀ c ∈ gap, Text.IsAscii c := by
  intro c member
  rcases blank c member with rfl | rfl | rfl | rfl
  · decide
  · decide
  · decide
  · decide

theorem LaidOut.isAscii {ks : List TokenKind} {cs : List Char} (laid : LaidOut ks cs)
    (wellFormed : ∀ k ∈ ks, k.WellFormed) : ∀ c ∈ cs, Text.IsAscii c := by
  induction laid with
  | @last k behind gap =>
      intro c member
      rcases List.mem_append.mp member with member | member
      · exact isAscii_of_mem_spelling (wellFormed k List.mem_cons_self) c member
      · exact gap.isAscii c member
  | @next k gap rest ks some blank others ih =>
      intro c member
      rcases List.mem_append.mp member with member | member
      · rcases List.mem_append.mp member with member | member
        · exact isAscii_of_mem_spelling (wellFormed k List.mem_cons_self) c member
        · exact blank.isAscii c member
      · exact ih (fun l held => wellFormed l (List.mem_cons_of_mem k held)) c member

/-! ### Reading back -/

/-- A source of ASCII characters is tokenized as it stands. -/
theorem tokenizeSource_of_isAscii [NormalForm] (ascii : NormalForm.KeepsAscii) {source : String}
    (all : ∀ c ∈ source.toList, Text.IsAscii c) : tokenizeSource source = tokenize source.toList :=
  congrArg tokenize (ascii _ all)

/-- Every written form of a well-formed instruction is read as this instruction, and no character of
    it is rejected. -/
theorem readLine_of_writtenAs [NormalForm] (ascii : NormalForm.KeepsAscii) {i : Instruction}
    {source : String} (wellFormed : i.WellFormed) (written : i.WrittenAs source) :
    readLine source = (.ok i, []) := by
  obtain ⟨front, text, gap, laid, whole⟩ := written
  have tokens := i.wellFormed_iff.mp wellFormed
  have plain : NormalForm.normalize source.toList = front ++ text := by
    rw [whole]
    apply ascii
    intro c member
    rcases List.mem_append.mp member with member | member
    · exact gap.isAscii c member
    · exact laid.isAscii tokens c member
  have drawn : ∀ {α : Type} {f : Segment → Option α}, (∀ c, f (.blank c) = none) →
      (segments (front ++ text)).filterMap f = (i.sentence.map TokenKind.segment).filterMap f := by
    intro α f separators
    rw [gap.filterMap_segments_append separators, laid.filterMap_segments separators tokens]
  have kinds : (readLine source).1 = .ok i := by
    rw [readLine_eq_ok_iff, plain, drawn fun _ => rfl, List.filterMap_map]
    exact List.filterMap_some
  have faults : ((readLine source).2).map Diagnostic.fault = [] := by
    change ((tokenize (NormalForm.normalize source.toList)).2).map Diagnostic.fault = []
    rw [plain, tokenize_eq_placed, map_fault_placed, drawn fun _ => rfl, List.filterMap_map]
    exact List.filterMap_none _
  exact Prod.ext kinds (List.map_eq_nil_iff.mp faults)

theorem exists_laidOut (k : TokenKind) (ks : List TokenKind) : ∃ cs, LaidOut (k :: ks) cs := by
  induction ks generalizing k with
  | nil => exact ⟨_, @LaidOut.last k [] (by simp [IsGap])⟩
  | cons l ks ih =>
      obtain ⟨rest, others⟩ := ih l
      exact ⟨_, @LaidOut.next k [' '] rest _ (by simp) (by simp [IsGap]) others⟩

/-- Every instruction has a written form. -/
theorem exists_writtenAs (i : Instruction) : ∃ source, i.WrittenAs source := by
  obtain ⟨k, ks, spelled⟩ : ∃ k ks, i.sentence = k :: ks := by
    cases i with
    | load register bits =>
        cases bits with
        | none => exact ⟨_, _, rfl⟩
        | some digits => exact ⟨_, _, rfl⟩
    | select | apply | concat | tensor | measure | inverse => exact ⟨_, _, rfl⟩
  obtain ⟨cs, laid⟩ := exists_laidOut k ks
  exact ⟨String.ofList cs, [], cs, by simp [IsGap], spelled ▸ laid, by simp⟩

/-- Whatever is read is well-formed. Every written form of a well-formed instruction reads back as
    this instruction without a diagnostic. So the instructions that some text is read as are exactly
    the well-formed ones. Written forms are of ASCII characters, which the normal form has to keep.
    -/
theorem readLine_reads_wellFormed [NormalForm] (ascii : NormalForm.KeepsAscii) (i : Instruction) :
    (∀ source, (readLine source).1 = .ok i → i.WellFormed) ∧
    (∀ source, i.WellFormed → i.WrittenAs source → readLine source = (.ok i, [])) ∧
    ((∃ source, (readLine source).1 = .ok i) ↔ i.WellFormed) := by
  refine ⟨fun source => wellFormed_of_readLine, fun source => readLine_of_writtenAs ascii, ?_, ?_⟩
  · intro found
    obtain ⟨source, read⟩ := found
    exact wellFormed_of_readLine read
  · intro wellFormed
    obtain ⟨source, written⟩ := exists_writtenAs i
    exact ⟨source, congrArg Prod.fst (readLine_of_writtenAs ascii wellFormed written)⟩

/-- A selection of one cell, at the largest of all offsets, over three lines and into a variable
    whose name begins like a register. -/
theorem readLine_reads_wellFormed_select :
    NormalForm.KeepsAscii ∧
      (Instruction.select "R1a" 0 18446744073709551615 1).WellFormed ∧
      (Instruction.select "R1a" 0 18446744073709551615 1).WrittenAs
        "\n SELECT\tR1a  R0\r\n18446744073709551615 1" ∧
      readLine "\n SELECT\tR1a  R0\r\n18446744073709551615 1" =
        (.ok (.select "R1a" 0 18446744073709551615 1), []) := by
  have written : (Instruction.select "R1a" 0 18446744073709551615 1).WrittenAs
      "\n SELECT\tR1a  R0\r\n18446744073709551615 1" :=
    ⟨['\n', ' '], _, by simp [IsGap],
      @LaidOut.next _ ['\t'] _ _ (by simp) (by simp [IsGap]) <|
        @LaidOut.next _ [' ', ' '] _ _ (by simp) (by simp [IsGap]) <|
          @LaidOut.next _ ['\r', '\n'] _ _ (by simp) (by simp [IsGap]) <|
            @LaidOut.next _ [' '] _ _ (by simp) (by simp [IsGap]) <|
              @LaidOut.last _ [] (by simp [IsGap]),
      rfl⟩
  obtain ⟨sound, complete, -⟩ :=
    readLine_reads_wellFormed Unicode.keepsAscii (.select "R1a" 0 18446744073709551615 1)
  have read := complete _ (by decide) written
  exact ⟨Unicode.keepsAscii, sound _ (congrArg Prod.fst read), written, read⟩

end QuantumAssembler
