import Mathlib.Data.Char
import Mathlib.Data.List.TakeWhile
import QuantumAssembler.Proofs.Language.Division
import QuantumAssembler.Proofs.Language.Grammar

/-!
Module: QuantumAssembler.Proofs.Language.WellFormed
Purpose: The instructions that can be written down. Their variable names are identifiers that mean
  nothing else, their bit-strings are not empty, and their numbers fit into a machine word. An
  instruction is well-formed exactly if the kinds of its sentence are, and no text has a token that
  is not well-formed; so nothing else is ever read.
Main exports: IsVariableName, IsBitString, TokenKind.WellFormed, Instruction.WellFormed,
  Instruction.sentence, exists_derivation_iff, Instruction.wellFormed_iff, Segment.WellFormed,
  wellFormed_of_mem_segments, readLine_eq_ok_iff, wellFormed_of_readLine
-/

namespace QuantumAssembler

/-! ### Names, bit-strings and numbers -/

/-- The letters of the language: the ASCII letters and the underscore. -/
def IsLetter (c : Char) : Prop :=
  c = '_' ∨ ('A' ≤ c ∧ c ≤ 'Z') ∨ ('a' ≤ c ∧ c ≤ 'z')

/-- The decimal digits. -/
def IsDigit (c : Char) : Prop :=
  '0' ≤ c ∧ c ≤ '9'

/-- A word that begins with a letter and goes on with letters and digits. -/
def IsIdentifier : List Char → Prop
  | [] => False
  | c :: rest => IsLetter c ∧ ∀ d ∈ rest, IsLetter d ∨ IsDigit d

/-- A word that is one certain character and behind it one or more digits. -/
def NumberedBy (initial : Char) (word : List Char) : Prop :=
  ∃ digits, digits ≠ [] ∧ (∀ d ∈ digits, IsDigit d) ∧ word = initial :: digits

/-- A variable name is an identifier that is neither reserved nor the literal of a register or of an
    identity matrix. -/
structure IsVariableName (name : String) : Prop where
  identifier : IsIdentifier name.toList
  unreserved : name ∉ Keyword.all.map Keyword.word
  noRegister : ¬ NumberedBy 'R' name.toList
  noIdentity : ¬ NumberedBy 'I' name.toList

/-- One or more bits. -/
def IsBitString (bits : String) : Prop :=
  bits.toList ≠ [] ∧ ∀ c ∈ bits.toList, c = '0' ∨ c = '1'

/-- The numbers that fit into a machine word. -/
def IsNumber (n : Nat) : Prop :=
  n < Nat.pow 2 64

instance : DecidablePred IsLetter := fun _ => inferInstanceAs (Decidable (_ ∨ _))

instance : DecidablePred IsDigit := fun _ => inferInstanceAs (Decidable (_ ∧ _))

-- The characters of the word are gone through, not all characters that there are.
instance : DecidablePred IsIdentifier
  | [] => .isFalse id
  | _ :: rest => @instDecidableAnd _ _ inferInstance (List.decidableBAll _ rest)

/-! ### Well-formed tokens and instructions -/

/-- The kinds that a token of a text can have, the end token apart. -/
def TokenKind.WellFormed : TokenKind → Prop
  | .register index => IsNumber index
  | .identity size => IsNumber size
  | .bits digits => IsBitString digits
  | .number value => IsNumber value
  | .name spelling => IsVariableName spelling
  | .keyword _ => True
  | .endOfInput => False

/-- A matrix operand is well-formed if its name or its number is. -/
def MatrixRef.WellFormed : MatrixRef → Prop
  | .gate .cnot => True
  | .gate .hadamard => True
  | .gate (.identity size) => IsNumber size
  | .named name => IsVariableName name
  | .register index => IsNumber index

/-- An instruction is well-formed if all its operands are. -/
def Instruction.WellFormed : Instruction → Prop
  | .load register none => IsNumber register
  | .load register (some bits) => IsNumber register ∧ IsBitString bits
  | .select target register offset count =>
      IsVariableName target ∧ IsNumber register ∧ IsNumber offset ∧ IsNumber count
  | .apply matrix register => matrix.WellFormed ∧ IsNumber register
  | .concat target left right => IsVariableName target ∧ left.WellFormed ∧ right.WellFormed
  | .tensor target left right => IsVariableName target ∧ left.WellFormed ∧ right.WellFormed
  | .measure register target => IsNumber register ∧ IsVariableName target
  | .inverse target matrix => IsVariableName target ∧ matrix.WellFormed

/-! ### Sentences -/

/-- The kind of the token that spells a matrix operand. -/
def MatrixRef.tokenKind : MatrixRef → TokenKind
  | .gate .cnot => .keyword .cnot
  | .gate .hadamard => .keyword .hadamard
  | .gate (.identity size) => .identity size
  | .named name => .name name
  | .register index => .register index

/-- The kinds of the tokens that spell an instruction, in order. -/
def Instruction.sentence : Instruction → List TokenKind
  | .load register none => [.keyword .load, .register register]
  | .load register (some bits) => [.keyword .load, .register register, .bits bits]
  | .select target register offset count =>
      [.keyword .select, .name target, .register register, .number offset, .number count]
  | .apply matrix register => [.keyword .apply, matrix.tokenKind, .register register]
  | .concat target left right =>
      [.name target, .keyword .concat, left.tokenKind, right.tokenKind]
  | .tensor target left right =>
      [.name target, .keyword .tensor, left.tokenKind, right.tokenKind]
  | .measure register target => [.keyword .measure, .register register, .name target]
  | .inverse target matrix => [.name target, .keyword .inverse, matrix.tokenKind]

theorem MatrixDerivation.tokenKind_operand {k : TokenKind} (d : MatrixDerivation k) :
    d.operand.tokenKind = k := by
  cases d <;> rfl

theorem MatrixRef.exists_derivation (m : MatrixRef) :
    ∃ d : MatrixDerivation m.tokenKind, d.operand = m := by
  cases m with
  | gate g =>
      cases g with
      | cnot => exact ⟨.cnot, rfl⟩
      | hadamard => exact ⟨.hadamard, rfl⟩
      | identity size => exact ⟨.identity size, rfl⟩
  | named name => exact ⟨.name name, rfl⟩
  | register index => exact ⟨.register index, rfl⟩

/-- The kinds that have a derivation of an instruction are those of its sentence. -/
theorem exists_derivation_iff {ks : List TokenKind} {i : Instruction} :
    (∃ d : Derivation ks, d.instruction = i) ↔ ks = i.sentence := by
  constructor
  · intro derived
    obtain ⟨d, rfl⟩ := derived
    cases d <;>
      simp [Derivation.instruction, Instruction.sentence, MatrixDerivation.tokenKind_operand]
  · intro spelled
    subst spelled
    cases i with
    | load register bits =>
        cases bits with
        | none => exact ⟨.load register, rfl⟩
        | some digits => exact ⟨.loadBits register digits, rfl⟩
    | select target register offset count =>
        exact ⟨.select target register offset count, rfl⟩
    | apply matrix register =>
        obtain ⟨operator, built⟩ := matrix.exists_derivation
        exact ⟨.apply operator register, by simp [Derivation.instruction, built]⟩
    | concat target left right =>
        obtain ⟨first, builtFirst⟩ := left.exists_derivation
        obtain ⟨second, builtSecond⟩ := right.exists_derivation
        exact ⟨.concat target first second,
          by simp [Derivation.instruction, builtFirst, builtSecond]⟩
    | tensor target left right =>
        obtain ⟨first, builtFirst⟩ := left.exists_derivation
        obtain ⟨second, builtSecond⟩ := right.exists_derivation
        exact ⟨.tensor target first second,
          by simp [Derivation.instruction, builtFirst, builtSecond]⟩
    | measure register target => exact ⟨.measure register target, rfl⟩
    | inverse target matrix =>
        obtain ⟨operand, built⟩ := matrix.exists_derivation
        exact ⟨.inverse target operand, by simp [Derivation.instruction, built]⟩

theorem MatrixRef.wellFormed_iff (m : MatrixRef) : m.WellFormed ↔ m.tokenKind.WellFormed := by
  cases m with
  | gate g => cases g <;> rfl
  | named | register => rfl

/-- An instruction is well-formed exactly if all tokens of its sentence are. -/
theorem Instruction.wellFormed_iff (i : Instruction) :
    i.WellFormed ↔ ∀ k ∈ i.sentence, k.WellFormed := by
  cases i with
  | load register bits =>
      cases bits <;> simp [Instruction.WellFormed, sentence, TokenKind.WellFormed]
  | select | apply | concat | tensor | measure | inverse =>
      simp [Instruction.WellFormed, sentence, TokenKind.WellFormed, MatrixRef.wellFormed_iff]

/-! ### Words -/

theorem isDigit_iff {c : Char} : c.isDigit = true ↔ IsDigit c := by
  simp [Char.isDigit, IsDigit, Char.le_def]

theorem isWordStart_iff {c : Char} : isWordStart c = true ↔ IsLetter c := by
  change (c == '_' || ('A' ≤ c ∧ c ≤ 'Z' || ('a' ≤ c && c ≤ 'z'))) = true ↔ _
  simp [IsLetter]

theorem isWordPart_iff {c : Char} : isWordPart c = true ↔ IsLetter c ∨ IsDigit c := by
  simp [isWordPart, Char.isAlphanum, isDigit_iff, ← isWordStart_iff, isWordStart, or_assoc]

/-- The digits behind an initial are found exactly in the words that are numbered by it. -/
theorem digitsBehind?_eq_some_iff {initial : Char} {word digits : List Char} :
    digitsBehind? initial word = some digits ↔
      digits ≠ [] ∧ (∀ d ∈ digits, IsDigit d) ∧ word = initial :: digits := by
  unfold digitsBehind?
  split
  · rename_i c d rest
    rw [Option.ite_none_right_eq_some, Option.some.injEq, List.all_eq_true]
    simp only [isDigit_iff]
    constructor
    · intro found
      obtain ⟨⟨rfl, all⟩, rfl⟩ := found
      exact ⟨by simp, all, rfl⟩
    · intro numbered
      obtain ⟨-, all, whole⟩ := numbered
      obtain ⟨rfl, rfl⟩ := List.cons.inj whole
      exact ⟨⟨rfl, all⟩, rfl⟩
  · rename_i short
    constructor
    · intro found
      cases found
    · intro numbered
      obtain ⟨more, -, rfl⟩ := numbered
      cases digits with
      | nil => exact absurd rfl more
      | cons d rest => exact absurd rfl (short initial d rest)

theorem digitsBehind?_eq_none_iff {initial : Char} {word : List Char} :
    digitsBehind? initial word = none ↔ ¬ NumberedBy initial word := by
  simp only [Option.eq_none_iff_forall_ne_some, ne_eq, digitsBehind?_eq_some_iff, NumberedBy,
    not_exists]

instance (initial : Char) (word : List Char) : Decidable (NumberedBy initial word) :=
  match found : digitsBehind? initial word with
  | none => .isFalse (digitsBehind?_eq_none_iff.mp found)
  | some digits => .isTrue ⟨digits, digitsBehind?_eq_some_iff.mp found⟩

theorem numeral?_eq_some_iff {digits : List Char} {value : Nat} :
    numeral? digits = some value ↔ Decimal.valueOf digits = value ∧ IsNumber value := by
  unfold numeral?
  rw [Option.ite_none_right_eq_some, Option.some.injEq]
  constructor
  · intro found
    obtain ⟨small, rfl⟩ := found
    exact ⟨rfl, small⟩
  · intro number
    obtain ⟨rfl, small⟩ := number
    exact ⟨small, rfl⟩

theorem Keyword.ofWord?_eq_none_iff {word : String} :
    ofWord? word = none ↔ word ∉ all.map Keyword.word := by
  simp [ofWord?]

/-- The bits ahead are a bit-string. -/
theorem isBitString_of_bitsAhead? {rest digits : List Char}
    (found : bitsAhead? rest = some digits) : IsBitString (String.ofList digits) := by
  unfold bitsAhead? at found
  rw [Option.ite_none_right_eq_some, Option.some.injEq] at found
  obtain ⟨⟨more, -⟩, rfl⟩ := found
  rw [IsBitString, String.toList_ofList]
  refine ⟨more, fun c member => ?_⟩
  simpa [isBit] using List.mem_takeWhile_imp member

/-! ### Deciding -/

instance : DecidablePred IsVariableName := fun name =>
  decidable_of_iff
    (IsIdentifier name.toList ∧ name ∉ Keyword.all.map Keyword.word ∧
      ¬ NumberedBy 'R' name.toList ∧ ¬ NumberedBy 'I' name.toList)
    ⟨fun all => ⟨all.1, all.2.1, all.2.2.1, all.2.2.2⟩,
      fun free => ⟨free.identifier, free.unreserved, free.noRegister, free.noIdentity⟩⟩

instance : DecidablePred IsBitString := fun bits =>
  @instDecidableAnd _ _ inferInstance (List.decidableBAll _ bits.toList)

instance : DecidablePred IsNumber := fun _ => inferInstanceAs (Decidable (_ < _))

instance : DecidablePred TokenKind.WellFormed
  | .register _ | .identity _ | .number _ => inferInstanceAs (Decidable (IsNumber _))
  | .bits _ => inferInstanceAs (Decidable (IsBitString _))
  | .name _ => inferInstanceAs (Decidable (IsVariableName _))
  | .keyword _ => .isTrue trivial
  | .endOfInput => .isFalse id

instance : DecidablePred Instruction.WellFormed := fun i =>
  decidable_of_iff _ i.wellFormed_iff.symm

/-- A number behind an `R` is no name, but what comes behind the number may make it one. -/
example : ¬ IsVariableName "R10" ∧ IsVariableName "R10a" ∧ ¬ IsVariableName "MEASURE" ∧
    IsVariableName "Measure" := by
  decide

/-! ### What is read -/

/-- A segment that is a token has a well-formed kind. -/
def Segment.WellFormed (s : Segment) : Prop :=
  ∀ k ∈ s.kind?, k.WellFormed

theorem wellFormed_numbered (kind : Nat → TokenKind)
    (numbers : ∀ n, IsNumber n → (kind n).WellFormed) (digits literal : List Char) :
    (numbered kind digits literal).WellFormed := by
  unfold numbered
  split
  · rename_i value fits
    intro k found
    cases found
    exact numbers value (numeral?_eq_some_iff.mp fits).2
  · intro k found
    cases found

theorem wellFormed_wordSegment {word : List Char} (identifier : IsIdentifier word) :
    (wordSegment word).WellFormed := by
  unfold wordSegment
  split
  · intro k found
    cases found
    trivial
  · rename_i unreserved
    split
    · exact wellFormed_numbered .register (fun _ fits => fits) _ _
    · rename_i noRegister
      split
      · exact wellFormed_numbered .identity (fun _ fits => fits) _ _
      · rename_i noIdentity
        intro k found
        cases found
        refine ⟨?_, Keyword.ofWord?_eq_none_iff.mp unreserved, ?_, ?_⟩
        · rwa [String.toList_ofList]
        · rw [String.toList_ofList]
          exact digitsBehind?_eq_none_iff.mp noRegister
        · rw [String.toList_ofList]
          exact digitsBehind?_eq_none_iff.mp noIdentity

theorem wellFormed_leading (c : Char) (rest : List Char) : (leading c rest).WellFormed := by
  unfold leading
  split
  · intro k found
    cases found
  · split
    · split
      · rename_i digits found
        intro k found
        cases found
        exact isBitString_of_bitsAhead? found
      · intro k found
        cases found
    · split
      · exact wellFormed_numbered .number (fun _ fits => fits) _ _
      · split
        · rename_i letter
          refine wellFormed_wordSegment ⟨isWordStart_iff.mp letter, fun d member => ?_⟩
          exact isWordPart_iff.mp (List.mem_takeWhile_imp member)
        · intro k found
          cases found

/-- No text has a token that is not well-formed. -/
theorem wellFormed_of_mem_segments {cs : List Char} {s : Segment} (member : s ∈ segments cs) :
    s.WellFormed := by
  fun_induction segments cs with
  | case1 => cases member
  | case2 c rest ih =>
      rcases List.mem_cons.mp member with rfl | later
      · exact wellFormed_leading c rest
      · exact ih later

/-- A source is read as an instruction exactly if its tokens spell the sentence of the instruction.
    -/
theorem readLine_eq_ok_iff [NormalForm] {source : String} {i : Instruction} :
    (readLine source).1 = .ok i ↔
      (segments (NormalForm.normalize source.toList)).filterMap Segment.kind? = i.sentence := by
  change readTokens (tokenizeSource source).1 = .ok i ↔ _
  rw [readTokens_eq_ok_iff, exists_derivation_iff, tokenizeSource, tokenize_eq_placed,
    kindsBeforeEnd_append rfl, kindsBeforeEnd, List.takeWhile_eq_self_iff.mpr, map_kind_placed]
  intro t member
  simp [(covers_segments _ .start).isEnd_eq_false t member]

/-- What is read is well-formed, whatever the text is. -/
theorem wellFormed_of_readLine [NormalForm] {source : String} {i : Instruction}
    (read : (readLine source).1 = .ok i) : i.WellFormed := by
  rw [i.wellFormed_iff, ← readLine_eq_ok_iff.mp read]
  intro k member
  obtain ⟨s, held, found⟩ := List.mem_filterMap.mp member
  exact wellFormed_of_mem_segments held k found

end QuantumAssembler
