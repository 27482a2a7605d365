import QuantumAssembler.Language.Sentence

/-!
Module: QuantumAssembler.Proofs.Language.Grammar
Purpose: The grammar of the assembly language as derivations over kinds of tokens, and the reading
  of token lists judged by it. A derivation carries the instruction that it builds, every operand in
  its own place. Reading answers an instruction exactly if the kinds in front of the first end token
  have a derivation, which is then the only one.
Main exports: MatrixDerivation, Derivation, Derivation.instruction, Derivation.unique,
  kindsBeforeEnd, Cursor.Reads, sentence_eq_ok_iff, readTokens_eq_ok_iff,
  Production.IsLocal, readTokens_append
-/

namespace QuantumAssembler

/-! ### Derivations -/

/-- The derivations of a matrix operand, by the token that spells it. -/
inductive MatrixDerivation : TokenKind → Type where
  | cnot : MatrixDerivation (.keyword .cnot)
  | hadamard : MatrixDerivation (.keyword .hadamard)
  | identity (size : Nat) : MatrixDerivation (.identity size)
  | name (spelling : String) : MatrixDerivation (.name spelling)
  | register (index : Nat) : MatrixDerivation (.register index)

/-- The operand that a derivation builds. -/
def MatrixDerivation.operand {k : TokenKind} : MatrixDerivation k → MatrixRef
  | .cnot => .gate .cnot
  | .hadamard => .gate .hadamard
  | .identity size => .gate (.identity size)
  | .name spelling => .named spelling
  | .register index => .register index

/-- The derivations of an instruction, one constructor for each production. -/
inductive Derivation : List TokenKind → Type where
  | load (target : Nat) : Derivation [.keyword .load, .register target]
  | loadBits (target : Nat) (digits : String) :
      Derivation [.keyword .load, .register target, .bits digits]
  | select (target : String) (source offset count : Nat) :
      Derivation [.keyword .select, .name target, .register source, .number offset, .number count]
  | apply {operator : TokenKind} (matrix : MatrixDerivation operator) (target : Nat) :
      Derivation [.keyword .apply, operator, .register target]
  | concat (target : String) {first second : TokenKind} (left : MatrixDerivation first)
      (right : MatrixDerivation second) :
      Derivation [.name target, .keyword .concat, first, second]
  | tensor (target : String) {first second : TokenKind} (left : MatrixDerivation first)
      (right : MatrixDerivation second) :
      Derivation [.name target, .keyword .tensor, first, second]
  | measure (source : Nat) (target : String) :
      Derivation [.keyword .measure, .register source, .name target]
  | inverse (target : String) {operand : TokenKind} (matrix : MatrixDerivation operand) :
      Derivation [.name target, .keyword .inverse, operand]

/-- The instruction that a derivation builds. -/
def Derivation.instruction {ks : List TokenKind} : Derivation ks → Instruction
  | .load target => .load target none
  | .loadBits target digits => .load target (some digits)
  | .select target source offset count => .select target source offset count
  | .apply matrix target => .apply matrix.operand target
  | .concat target left right => .concat target left.operand right.operand
  | .tensor target left right => .tensor target left.operand right.operand
  | .measure source target => .measure source target
  | .inverse target matrix => .inverse target matrix.operand

/-- A token spells a matrix operand in one way. -/
theorem MatrixDerivation.unique {k : TokenKind} (d e : MatrixDerivation k) : d = e := by
  cases d <;> cases e <;> rfl

/-- The grammar is unambiguous. -/
theorem Derivation.unique {ks : List TokenKind} (d e : Derivation ks) : d = e := by
  cases d with
  | load target => cases e; rfl
  | loadBits target digits => cases e; rfl
  | select target source offset count => cases e; rfl
  | apply matrix target =>
      cases e with
      | apply other => rw [matrix.unique other]
  | concat target left right =>
      cases e with
      | concat _ left' right' => rw [left.unique left', right.unique right']
  | tensor target left right =>
      cases e with
      | tensor _ left' right' => rw [left.unique left', right.unique right']
  | measure source target => cases e; rfl
  | inverse target matrix =>
      cases e with
      | inverse _ other => rw [matrix.unique other]

/-! ### What a cursor reads -/

/-- The kinds of the tokens in front of the first end token. -/
def kindsBeforeEnd (tokens : List Token) : List TokenKind :=
  (tokens.takeWhile fun t => !t.isEnd).map Token.kind

namespace Cursor

/-- The kinds of the tokens from a cursor on, up to the first end token. -/
def ahead (c : Cursor) : List TokenKind :=
  kindsBeforeEnd (c.current :: c.later)

/-- An end token stands at the cursor or behind it. -/
def Closed (c : Cursor) : Prop :=
  ∃ t ∈ c.current :: c.later, t.isEnd = true

/-- From a cursor to another one, tokens of the given kinds are read, none of them an end token. -/
def Reads (c : Cursor) : List TokenKind → Cursor → Prop
  | [], after => c = after
  | k :: ks, after => c.current.kind = k ∧ k ≠ .endOfInput ∧ c.advance.Reads ks after

namespace Reads

variable {c middle after : Cursor} {k : TokenKind} {ks : List TokenKind}

theorem cons (first : c.Reads [k] middle) (rest : middle.Reads ks after) :
    c.Reads (k :: ks) after := by
  obtain ⟨kind, inner, rfl⟩ := first
  exact ⟨kind, inner, rest⟩

theorem uncons (reads : c.Reads (k :: ks) after) :
    ∃ middle, c.Reads [k] middle ∧ middle.Reads ks after :=
  ⟨c.advance, ⟨reads.1, reads.2.1, rfl⟩, reads.2.2⟩

end Reads

end Cursor

namespace Production

variable {α β : Type} {c after : Cursor}

theorem bind_eq_ok_iff {p : Production α} {f : α → Production β} {b : β} :
    (p >>= f) c = .ok b after ↔ ∃ a middle, p c = .ok a middle ∧ f a middle = .ok b after := by
  change EStateM.bind p f c = _ ↔ _
  unfold EStateM.bind
  constructor
  · intro read
    cases first : p c with
    | ok a middle => exact ⟨a, middle, rfl, by simpa [first] using read⟩
    | error e middle => simp [first] at read
  · intro steps
    obtain ⟨a, middle, first, second⟩ := steps
    rw [first]
    exact second

theorem pure_eq_ok_iff {a b : α} : (pure a : Production α) c = .ok b after ↔ a = b ∧ c = after := by
  change EStateM.Result.ok a c = _ ↔ _
  simp

/-- A token is accepted if it spells what is asked for, and then it is read. -/
theorem accept_eq_ok_iff {choose : TokenKind → Option α} (spells : TokenKind → α → Prop)
    (chosen : ∀ k a, choose k = some a ↔ spells k a) (inner : ∀ a, ¬ spells .endOfInput a)
    {demand : Demand} {a : α} :
    accept choose demand c = .ok a after ↔ ∃ k, spells k a ∧ c.Reads [k] after := by
  unfold accept
  constructor
  · intro read
    cases found : choose c.current.kind with
    | none => simp [found, refuse] at read
    | some value =>
        simp only [found, EStateM.Result.ok.injEq] at read
        obtain ⟨rfl, rfl⟩ := read
        have spelled := (chosen _ _).mp found
        exact ⟨_, spelled, rfl, fun ended => inner value (ended ▸ spelled), rfl⟩
  · intro spells
    obtain ⟨k, spelled, rfl, -, rfl⟩ := spells
    rw [(chosen _ _).mpr spelled]

theorem register_eq_ok_iff {demand : Demand} {index : Nat} :
    register demand c = .ok index after ↔ c.Reads [.register index] after := by
  rw [register, accept_eq_ok_iff fun k index => k = .register index]
  · simp
  · intro k index
    cases k <;> simp
  · simp

theorem name_eq_ok_iff {demand : Demand} {spelling : String} :
    name demand c = .ok spelling after ↔ c.Reads [.name spelling] after := by
  rw [name, accept_eq_ok_iff fun k spelling => k = .name spelling]
  · simp
  · intro k spelling
    cases k <;> simp
  · simp

theorem number_eq_ok_iff {demand : Demand} {value : Nat} :
    number demand c = .ok value after ↔ c.Reads [.number value] after := by
  rw [number, accept_eq_ok_iff fun k value => k = .number value]
  · simp
  · intro k value
    cases k <;> simp
  · simp

theorem matrix_eq_ok_iff {operand : MatrixRef} :
    matrix c = .ok operand after ↔
      ∃ k, (∃ d : MatrixDerivation k, d.operand = operand) ∧ c.Reads [k] after := by
  rw [matrix, accept_eq_ok_iff fun k operand => ∃ d : MatrixDerivation k, d.operand = operand]
  · intro k operand
    constructor
    · intro chosen
      split at chosen
      · cases chosen; exact ⟨.cnot, rfl⟩
      · cases chosen; exact ⟨.hadamard, rfl⟩
      · cases chosen; exact ⟨.identity _, rfl⟩
      · cases chosen; exact ⟨.name _, rfl⟩
      · cases chosen; exact ⟨.register _, rfl⟩
      · cases chosen
    · intro derived
      obtain ⟨d, rfl⟩ := derived
      cases d <;> rfl
  · rintro operand ⟨d, -⟩
    cases d

/-- The reserved word of an operation. -/
def Assignment.keyword : Assignment → Keyword
  | .concat => .concat
  | .tensor => .tensor
  | .inverse => .inverse

theorem assignment_eq_ok_iff {operation : Assignment} :
    assignment c = .ok operation after ↔ c.Reads [.keyword operation.keyword] after := by
  rw [assignment, accept_eq_ok_iff fun k operation => k = .keyword operation.keyword]
  · simp
  · intro k operation
    constructor
    · intro chosen
      split at chosen
      · cases chosen; rfl
      · cases chosen; rfl
      · cases chosen; rfl
      · cases chosen
    · rintro rfl
      cases operation <;> rfl
  · simp

/-- A bit-string is read if one stands at the cursor, and nothing otherwise. -/
theorem optionalBits_eq_ok_iff {bits : Option String} :
    optionalBits c = .ok bits after ↔
      (∃ digits, bits = some digits ∧ c.Reads [.bits digits] after) ∨
      (bits = none ∧ c = after ∧ ∀ digits, c.current.kind ≠ .bits digits) := by
  unfold optionalBits
  split
  · rename_i digits kind
    constructor
    · intro read
      cases read
      exact .inl ⟨digits, rfl, kind, by simp, rfl⟩
    · intro found
      rcases found with ⟨other, rfl, same, -, rfl⟩ | ⟨-, -, none⟩
      · rw [kind] at same
        cases same
        rfl
      · exact absurd kind (none digits)
  · rename_i none
    constructor
    · intro read
      cases read
      exact .inr ⟨rfl, rfl, none⟩
    · intro found
      rcases found with ⟨digits, rfl, kind, -⟩ | ⟨rfl, rfl, -⟩
      · exact absurd kind (none digits)
      · rfl

/-! ### Operands -/

/-- A production reads what stands behind a token of kind `first` if, up to an end token, it reads
    exactly the derivations that begin with this kind. -/
def Completes (first : TokenKind) (p : Production Instruction) : Prop :=
  ∀ ⦃c after : Cursor⦄ ⦃i : Instruction⦄, after.current.kind = .endOfInput →
    (p c = .ok i after ↔
      ∃ ks, ∃ d : Derivation (first :: ks), d.instruction = i ∧ c.Reads ks after)

theorem completes_loadOperands : Completes (.keyword .load) loadOperands := by
  intro c after i ended
  simp only [loadOperands, bind_eq_ok_iff, register_eq_ok_iff, optionalBits_eq_ok_iff,
    pure_eq_ok_iff]
  constructor
  · intro read
    obtain ⟨target, middle, register, bits, last, optional, rfl, rfl⟩ := read
    rcases optional with ⟨digits, rfl, read⟩ | ⟨rfl, rfl, -⟩
    · exact ⟨_, .loadBits target digits, rfl, register.cons read⟩
    · exact ⟨_, .load target, rfl, register⟩
  · intro derived
    obtain ⟨ks, d, rfl, reads⟩ := derived
    cases d with
    | load target =>
        exact ⟨target, after, reads, none, after, .inr ⟨rfl, rfl, by simp [ended]⟩, rfl, rfl⟩
    | loadBits target digits =>
        obtain ⟨middle, register, bits⟩ := reads.uncons
        exact ⟨target, middle, register, some digits, after, .inl ⟨digits, rfl, bits⟩, rfl, rfl⟩

theorem completes_selectOperands : Completes (.keyword .select) selectOperands := by
  intro c after i _
  simp only [selectOperands, bind_eq_ok_iff, name_eq_ok_iff, register_eq_ok_iff,
    number_eq_ok_iff, pure_eq_ok_iff]
  constructor
  · intro read
    obtain ⟨target, _, name, source, _, register, offset, _, first, operands⟩ := read
    obtain ⟨count, _, second, rfl, rfl⟩ := operands
    exact ⟨_, .select target source offset count, rfl,
      name.cons (register.cons (first.cons second))⟩
  · intro derived
    obtain ⟨ks, d, rfl, reads⟩ := derived
    cases d with
    | select target source offset count =>
        obtain ⟨_, name, reads⟩ := reads.uncons
        obtain ⟨_, register, reads⟩ := reads.uncons
        obtain ⟨_, first, second⟩ := reads.uncons
        exact ⟨target, _, name, source, _, register, offset, _, first, count, _, second, rfl, rfl⟩

theorem completes_applyOperands : Completes (.keyword .apply) applyOperands := by
  intro c after i _
  simp only [applyOperands, bind_eq_ok_iff, matrix_eq_ok_iff, register_eq_ok_iff, pure_eq_ok_iff]
  constructor
  · intro read
    obtain ⟨_, _, ⟨k, ⟨matrix, rfl⟩, operator⟩, target, _, register, rfl, rfl⟩ := read
    exact ⟨_, .apply matrix target, rfl, operator.cons register⟩
  · intro derived
    obtain ⟨ks, d, rfl, reads⟩ := derived
    cases d with
    | apply matrix target =>
        obtain ⟨_, operator, register⟩ := reads.uncons
        exact ⟨_, _, ⟨_, ⟨matrix, rfl⟩, operator⟩, target, _, register, rfl, rfl⟩

theorem completes_measureOperands : Completes (.keyword .measure) measureOperands := by
  intro c after i _
  simp only [measureOperands, bind_eq_ok_iff, register_eq_ok_iff, name_eq_ok_iff, pure_eq_ok_iff]
  constructor
  · intro read
    obtain ⟨source, _, register, target, _, name, rfl, rfl⟩ := read
    exact ⟨_, .measure source target, rfl, register.cons name⟩
  · intro derived
    obtain ⟨ks, d, rfl, reads⟩ := derived
    cases d with
    | measure source target =>
        obtain ⟨_, register, name⟩ := reads.uncons
        exact ⟨source, _, register, target, _, name, rfl, rfl⟩

/-- Two matrices are read one after the other. -/
theorem matrices_eq_ok_iff (build : MatrixRef → MatrixRef → Instruction) {i : Instruction} :
    (do return build (← matrix) (← matrix) : Production Instruction) c = .ok i after ↔
      ∃ first second, ∃ (left : MatrixDerivation first) (right : MatrixDerivation second),
        build left.operand right.operand = i ∧ c.Reads [first, second] after := by
  simp only [bind_eq_ok_iff, matrix_eq_ok_iff, pure_eq_ok_iff]
  constructor
  · intro read
    obtain ⟨_, _, ⟨_, ⟨left, rfl⟩, first⟩, _, _, ⟨_, ⟨right, rfl⟩, second⟩, built, rfl⟩ := read
    exact ⟨_, _, left, right, built, first.cons second⟩
  · intro derived
    obtain ⟨_, _, left, right, built, reads⟩ := derived
    obtain ⟨_, first, second⟩ := reads.uncons
    exact ⟨_, _, ⟨_, ⟨left, rfl⟩, first⟩, _, _, ⟨_, ⟨right, rfl⟩, second⟩, built, rfl⟩

/-- The operands of an assignment are read as the derivations behind its operation spell them. -/
theorem operands_eq_ok_iff (target : String) (operation : Assignment) {i : Instruction} :
    operands target operation c = .ok i after ↔
      ∃ ks, ∃ d : Derivation (.name target :: .keyword operation.keyword :: ks),
        d.instruction = i ∧ c.Reads ks after := by
  cases operation with
  | concat =>
      refine (matrices_eq_ok_iff (.concat target)).trans ⟨?_, ?_⟩
      · intro read
        obtain ⟨_, _, left, right, built, reads⟩ := read
        exact ⟨_, .concat target left right, built, reads⟩
      · intro derived
        obtain ⟨ks, d, built, reads⟩ := derived
        cases d with
        | concat _ left right => exact ⟨_, _, left, right, built, reads⟩
  | tensor =>
      refine (matrices_eq_ok_iff (.tensor target)).trans ⟨?_, ?_⟩
      · intro read
        obtain ⟨_, _, left, right, built, reads⟩ := read
        exact ⟨_, .tensor target left right, built, reads⟩
      · intro derived
        obtain ⟨ks, d, built, reads⟩ := derived
        cases d with
        | tensor _ left right => exact ⟨_, _, left, right, built, reads⟩
  | inverse =>
      simp only [operands, bind_eq_ok_iff, matrix_eq_ok_iff, pure_eq_ok_iff]
      constructor
      · intro read
        obtain ⟨_, _, ⟨_, ⟨matrix, rfl⟩, only⟩, built, rfl⟩ := read
        exact ⟨_, .inverse target matrix, built, only⟩
      · intro derived
        obtain ⟨ks, d, built, reads⟩ := derived
        cases d with
        | inverse _ matrix => exact ⟨_, _, ⟨_, ⟨matrix, rfl⟩, reads⟩, built, rfl⟩

theorem completes_assignmentTo (target : String) :
    Completes (.name target) (assignmentTo target) := by
  intro c after i _
  simp only [assignmentTo, bind_eq_ok_iff, assignment_eq_ok_iff, operands_eq_ok_iff]
  constructor
  · intro read
    obtain ⟨operation, _, word, ks, d, built, reads⟩ := read
    exact ⟨_, d, built, word.cons reads⟩
  · intro derived
    obtain ⟨ks, d, built, reads⟩ := derived
    cases d with
    | concat _ left right =>
        obtain ⟨_, word, reads⟩ := reads.uncons
        exact ⟨.concat, _, word, _, .concat target left right, built, reads⟩
    | tensor _ left right =>
        obtain ⟨_, word, reads⟩ := reads.uncons
        exact ⟨.tensor, _, word, _, .tensor target left right, built, reads⟩
    | inverse _ matrix =>
        obtain ⟨_, word, reads⟩ := reads.uncons
        exact ⟨.inverse, _, word, _, .inverse target matrix, built, reads⟩

/-- Up to an end token, an instruction is read exactly as a derivation spells it. -/
theorem instruction_eq_ok_iff {i : Instruction} (ended : after.current.kind = .endOfInput) :
    instruction c = .ok i after ↔
      ∃ ks, ∃ d : Derivation ks, d.instruction = i ∧ c.Reads ks after := by
  -- The first token decides on the production, on both sides.
  have first : ∀ {k : TokenKind} {p : Production Instruction}, c.current.kind = k →
      k ≠ .endOfInput → Completes k p → (p c.advance = .ok i after ↔
        ∃ ks, ∃ d : Derivation ks, d.instruction = i ∧ c.Reads ks after) := by
    intro k p kind inner completes
    rw [completes ended]
    constructor
    · intro derived
      obtain ⟨ks, d, built, reads⟩ := derived
      exact ⟨_, d, built, kind, inner, reads⟩
    · intro derived
      obtain ⟨ks, d, built, reads⟩ := derived
      cases ks with
      | nil => cases d
      | cons other ks =>
          obtain ⟨same, -, reads⟩ := reads
          obtain rfl : other = k := same.symm.trans kind
          exact ⟨ks, d, built, reads⟩
  unfold instruction
  split
  · exact first ‹_› (by simp) completes_loadOperands
  · exact first ‹_› (by simp) completes_selectOperands
  · exact first ‹_› (by simp) completes_applyOperands
  · exact first ‹_› (by simp) completes_measureOperands
  · exact first ‹_› (by simp) (completes_assignmentTo _)
  · rename_i kind
    constructor
    · intro read
      simp [refuse] at read
    · intro derived
      obtain ⟨ks, d, -, reads⟩ := derived
      cases d <;> cases kind.symm.trans reads.1
  · rename_i noLoad noSelect noApply noMeasure noName _
    constructor
    · intro read
      cases read
    · intro derived
      obtain ⟨ks, d, -, reads⟩ := derived
      cases d with
      | load => exact absurd reads.1 noLoad
      | loadBits => exact absurd reads.1 noLoad
      | select => exact absurd reads.1 noSelect
      | apply => exact absurd reads.1 noApply
      | concat target => exact absurd reads.1 (noName target)
      | tensor target => exact absurd reads.1 (noName target)
      | measure => exact absurd reads.1 noMeasure
      | inverse target => exact absurd reads.1 (noName target)

/-- A sentence is an instruction with an end token behind it. -/
theorem sentence_eq_ok_iff {i : Instruction} :
    sentence c = .ok i after ↔
      (∃ ks, ∃ d : Derivation ks, d.instruction = i ∧ c.Reads ks after) ∧
        after.current.kind = .endOfInput := by
  constructor
  · intro read
    unfold sentence at read
    cases first : instruction c with
    | error e middle => simp [first] at read
    | ok j middle =>
        simp only [first] at read
        split at read
        · rename_i atEnd
          cases read
          have ended : after.current.kind = .endOfInput := by simpa [Token.isEnd] using atEnd
          exact ⟨(instruction_eq_ok_iff ended).mp first, ended⟩
        · cases read
  · rintro ⟨derived, ended⟩
    have first := (instruction_eq_ok_iff ended).mpr derived
    simp [sentence, first, Token.isEnd, ended]

end Production

/-! ### The tokens up to the first end token -/

namespace Cursor

variable {c : Cursor}

theorem ahead_eq_nil_iff : c.ahead = [] ↔ c.current.kind = .endOfInput := by
  unfold ahead kindsBeforeEnd
  by_cases ended : c.current.kind = .endOfInput
  · simp [Token.isEnd, ended]
  · simp [Token.isEnd, ended]

/-- A closed cursor that is not at an end token steps to the next token, and stays closed. -/
theorem Closed.step (closed : c.Closed) (inner : c.current.kind ≠ .endOfInput) :
    ∃ t later, c.later = t :: later ∧ c.advance = ⟨t, later⟩ ∧ Closed ⟨t, later⟩ := by
  have open_ : c.current.isEnd = false := by simpa [Token.isEnd] using inner
  obtain ⟨e, member, ended⟩ := closed
  rcases List.mem_cons.mp member with rfl | member
  · rw [open_] at ended
    cases ended
  · obtain ⟨current, later⟩ := c
    cases later with
    | nil => cases member
    | cons t later => exact ⟨t, later, rfl, by simp [advance, open_], e, member, ended⟩

/-- Stepping keeps a cursor closed. -/
theorem Closed.advance (closed : c.Closed) : c.advance.Closed := by
  by_cases ended : c.current.kind = .endOfInput
  · have stays : c.advance = c := by simp [Cursor.advance, Token.isEnd, ended]
    rw [stays]
    exact closed
  · obtain ⟨t, later, -, step, closedAfter⟩ := closed.step ended
    rw [step]
    exact closedAfter

/-- What is ahead of a closed cursor is the kind at the cursor and what is ahead after a step. -/
theorem Closed.ahead_eq_cons_iff (closed : c.Closed) {k : TokenKind} {ks : List TokenKind} :
    c.ahead = k :: ks ↔ c.current.kind = k ∧ k ≠ .endOfInput ∧ c.advance.ahead = ks := by
  by_cases ended : c.current.kind = .endOfInput
  · have none : c.ahead = [] := ahead_eq_nil_iff.mpr ended
    constructor
    · intro some
      rw [none] at some
      cases some
    · rintro ⟨rfl, inner, -⟩
      exact absurd ended inner
  · obtain ⟨t, later, rest, step, -⟩ := closed.step ended
    have split : c.ahead = c.current.kind :: c.advance.ahead := by
      rw [step]
      simp [ahead, kindsBeforeEnd, rest, Token.isEnd, ended]
    rw [split, List.cons.injEq]
    constructor
    · rintro ⟨rfl, rfl⟩
      exact ⟨rfl, ended, rfl⟩
    · rintro ⟨rfl, -, rfl⟩
      exact ⟨rfl, rfl⟩

/-- From a closed cursor, the kinds that can be read up to an end token are those ahead. -/
theorem Closed.reads_iff (closed : c.Closed) {ks : List TokenKind} :
    (∃ after, c.Reads ks after ∧ after.current.kind = .endOfInput) ↔ c.ahead = ks := by
  induction ks generalizing c with
  | nil => simp [Reads, ahead_eq_nil_iff]
  | cons k ks ih =>
      rw [closed.ahead_eq_cons_iff, ← ih closed.advance]
      constructor
      · intro reads
        obtain ⟨after, ⟨kind, inner, reads⟩, ended⟩ := reads
        exact ⟨kind, inner, after, reads, ended⟩
      · intro ahead
        obtain ⟨kind, inner, after, reads, ended⟩ := ahead
        exact ⟨after, ⟨kind, inner, reads⟩, ended⟩

end Cursor

/-- Nothing behind an end token counts. -/
theorem kindsBeforeEnd_append {e : Token} (ended : e.isEnd = true) (tokens behind : List Token) :
    kindsBeforeEnd (tokens ++ e :: behind) = kindsBeforeEnd tokens := by
  unfold kindsBeforeEnd
  induction tokens with
  | nil => simp [ended]
  | cons t rest ih =>
      cases inner : t.isEnd with
      | true => simp [inner]
      | false => simpa [inner] using ih

/-- Kinds before the end are a matter of kinds only. -/
theorem kindsBeforeEnd_congr {tokens others : List Token}
    (same : others.map Token.kind = tokens.map Token.kind) :
    kindsBeforeEnd others = kindsBeforeEnd tokens := by
  have byKinds : ∀ ts : List Token,
      kindsBeforeEnd ts = (ts.map Token.kind).takeWhile fun k => !(k == .endOfInput) := by
    intro ts
    rw [List.takeWhile_map]
    rfl
  rw [byKinds, byKinds, same]

namespace Cursor

theorem isEnd_endAfter (tokens : List Token) : (endAfter tokens).isEnd = true := by
  unfold endAfter
  split <;> rfl

/-- The list that a cursor is put on ends in an end token. -/
theorem exists_isEnd_closed (tokens : List Token) : ∃ t ∈ closed tokens, t.isEnd = true := by
  unfold closed
  split
  · rename_i last
    obtain ⟨e, found, ended⟩ : ∃ e, tokens.getLast? = some e ∧ e.isEnd = true := by
      cases found : tokens.getLast? with
      | none => simp [found] at last
      | some e => exact ⟨e, rfl, by simpa [found] using last⟩
    exact ⟨e, List.mem_of_getLast? found, ended⟩
  · exact ⟨_, List.mem_append_right _ List.mem_cons_self, isEnd_endAfter tokens⟩

/-- The end token that is put behind a list has nothing before the end. -/
theorem kindsBeforeEnd_closed (tokens : List Token) :
    kindsBeforeEnd (closed tokens) = kindsBeforeEnd tokens := by
  unfold closed
  split
  · rfl
  · exact kindsBeforeEnd_append (isEnd_endAfter tokens) tokens []

/-- The cursor on a list of tokens is closed and has the kinds before the first end token ahead. -/
theorem closed_ofTokens (tokens : List Token) :
    (ofTokens tokens).Closed ∧ (ofTokens tokens).ahead = kindsBeforeEnd tokens := by
  obtain ⟨e, member, ended⟩ := exists_isEnd_closed tokens
  rw [← kindsBeforeEnd_closed]
  unfold ofTokens
  split
  · rename_i none
    rw [none] at member
    cases member
  · rename_i t later some
    rw [some] at member ⊢
    exact ⟨⟨e, member, ended⟩, rfl⟩

end Cursor

/-- A list of tokens is read as an instruction exactly if this is built by a derivation of the kinds
    before the first end token. -/
theorem readTokens_eq_ok_iff {tokens : List Token} {i : Instruction} :
    readTokens tokens = .ok i ↔ ∃ d : Derivation (kindsBeforeEnd tokens), d.instruction = i := by
  obtain ⟨closed, ahead⟩ := Cursor.closed_ofTokens tokens
  have reads : readTokens tokens = .ok i ↔
      ∃ after, Production.sentence (.ofTokens tokens) = .ok i after := by
    unfold readTokens
    cases Production.sentence (.ofTokens tokens) <;> simp
  simp only [reads, Production.sentence_eq_ok_iff]
  constructor
  · intro read
    obtain ⟨after, ⟨ks, d, built, reads⟩, ended⟩ := read
    have spelled := closed.reads_iff.mp ⟨after, reads, ended⟩
    rw [ahead] at spelled
    subst spelled
    exact ⟨d, built⟩
  · intro derived
    obtain ⟨d, built⟩ := derived
    obtain ⟨after, reads, ended⟩ := closed.reads_iff.mpr ahead
    exact ⟨after, ⟨_, d, built, reads⟩, ended⟩

/-! ### Nothing behind the first end token matters -/

/-- The tokens up to the first end token, which is kept. -/
def upToEnd : List Token → List Token
  | [] => []
  | t :: rest => if t.isEnd then [t] else t :: upToEnd rest

theorem upToEnd_append {e : Token} (ended : e.isEnd = true) (tokens behind : List Token) :
    upToEnd (tokens ++ e :: behind) = upToEnd (tokens ++ [e]) := by
  induction tokens with
  | nil => simp [upToEnd, ended]
  | cons t rest ih => simp [upToEnd, ih]

namespace Cursor

/-- The cursor with all tokens behind the first end token cut off. -/
def cut (c : Cursor) : Cursor :=
  ⟨c.current, if c.current.isEnd then [] else upToEnd c.later⟩

@[simp] theorem current_cut (c : Cursor) : c.cut.current = c.current :=
  rfl

/-- A step does not see what is cut off. -/
theorem advance_cut (c : Cursor) : c.cut.advance = c.advance.cut := by
  obtain ⟨t, later⟩ := c
  cases ended : t.isEnd with
  | true => simp [cut, advance, ended]
  | false =>
      cases later with
      | nil => simp [cut, advance, ended, upToEnd]
      | cons u rest =>
          cases next : u.isEnd with
          | true => simp [cut, advance, ended, upToEnd, next]
          | false => simp [cut, advance, ended, upToEnd, next]

/-- Cut behind an end token, two lists of tokens begin alike. -/
theorem cut_ofTokens_append {e : Token} (ended : e.isEnd = true) (tokens behind : List Token) :
    (ofTokens (tokens ++ e :: behind)).cut = (ofTokens (tokens ++ [e])).cut := by
  have more : ∀ ts : List Token, ∃ others, closed ts = ts ++ others := by
    intro ts
    unfold closed
    split
    · exact ⟨[], (List.append_nil ts).symm⟩
    · exact ⟨_, rfl⟩
  obtain ⟨first, long⟩ := more (tokens ++ e :: behind)
  obtain ⟨second, short⟩ := more (tokens ++ [e])
  unfold ofTokens
  rw [long, short, List.append_assoc, List.append_assoc, List.cons_append, List.cons_append]
  cases tokens with
  | nil => simp [cut, ended]
  | cons t rest =>
      simp only [List.cons_append, cut]
      rw [upToEnd_append ended rest (behind ++ first), upToEnd_append ended rest ([] ++ second)]

end Cursor

namespace Production

variable {α β : Type}

/-- The result of a production with the cursor cut. -/
def cutResult : EStateM.Result SyntaxError Cursor α → EStateM.Result SyntaxError Cursor α
  | .ok a after => .ok a after.cut
  | .error e after => .error e after.cut

/-- A production sees nothing behind the first end token. -/
def IsLocal (p : Production α) : Prop :=
  ∀ c : Cursor, p c.cut = cutResult (p c)

theorem IsLocal.pure (a : α) : IsLocal (Pure.pure a : Production α) :=
  fun _ => rfl

theorem IsLocal.bind {p : Production α} {f : α → Production β} (first : p.IsLocal)
    (then_ : ∀ a, (f a).IsLocal) : IsLocal (p >>= f) := by
  intro c
  change EStateM.bind p f c.cut = cutResult (EStateM.bind p f c)
  unfold EStateM.bind
  rw [first c]
  cases p c with
  | ok a middle => exact then_ a middle
  | error e middle => rfl

theorem isLocal_refuse (demand : Demand) : IsLocal (refuse demand : Production α) :=
  fun _ => rfl

theorem isLocal_accept (choose : TokenKind → Option α) (demand : Demand) :
    IsLocal (accept choose demand) := by
  intro c
  simp only [accept, Cursor.current_cut, Cursor.advance_cut]
  cases choose c.current.kind with
  | none => rfl
  | some value => rfl

theorem isLocal_optionalBits : IsLocal optionalBits := by
  intro c
  simp only [optionalBits, Cursor.current_cut, Cursor.advance_cut]
  generalize c.current.kind = kind
  cases kind <;> rfl

theorem isLocal_matrix : IsLocal matrix :=
  isLocal_accept _ _

theorem isLocal_loadOperands : IsLocal loadOperands :=
  (isLocal_accept _ _).bind fun _ => isLocal_optionalBits.bind fun _ => .pure _

theorem isLocal_selectOperands : IsLocal selectOperands :=
  (isLocal_accept _ _).bind fun _ => (isLocal_accept _ _).bind fun _ =>
    (isLocal_accept _ _).bind fun _ => (isLocal_accept _ _).bind fun _ => .pure _

theorem isLocal_applyOperands : IsLocal applyOperands :=
  isLocal_matrix.bind fun _ => (isLocal_accept _ _).bind fun _ => .pure _

theorem isLocal_measureOperands : IsLocal measureOperands :=
  (isLocal_accept _ _).bind fun _ => (isLocal_accept _ _).bind fun _ => .pure _

theorem isLocal_assignmentTo (target : String) : IsLocal (assignmentTo target) := by
  refine (isLocal_accept _ _).bind fun operation => ?_
  cases operation with
  | concat => exact isLocal_matrix.bind fun _ => isLocal_matrix.bind fun _ => .pure _
  | tensor => exact isLocal_matrix.bind fun _ => isLocal_matrix.bind fun _ => .pure _
  | inverse => exact isLocal_matrix.bind fun _ => .pure _

theorem isLocal_instruction : IsLocal instruction := by
  intro c
  simp only [instruction, Cursor.current_cut, Cursor.advance_cut]
  generalize c.current.kind = kind
  cases kind with
  | keyword k =>
      cases k with
      | load => exact isLocal_loadOperands _
      | select => exact isLocal_selectOperands _
      | apply => exact isLocal_applyOperands _
      | measure => exact isLocal_measureOperands _
      | cnot | hadamard | concat | tensor | inverse => rfl
  | name target => exact isLocal_assignmentTo target _
  | endOfInput => exact isLocal_refuse _ _
  | register | identity | bits | number => rfl

theorem isLocal_sentence : IsLocal sentence := by
  intro c
  unfold sentence
  rw [isLocal_instruction c]
  cases instruction c with
  | error e after => rfl
  | ok i after =>
      cases ended : after.current.isEnd with
      | true => simp [cutResult, ended]
      | false => simp [cutResult, ended]

end Production

/-- What stands behind an end token changes neither the instruction nor the error. -/
theorem readTokens_append {e : Token} (ended : e.isEnd = true) (tokens behind : List Token) :
    readTokens (tokens ++ e :: behind) = readTokens (tokens ++ [e]) := by
  have first := Production.isLocal_sentence (Cursor.ofTokens (tokens ++ e :: behind))
  have second := Production.isLocal_sentence (Cursor.ofTokens (tokens ++ [e]))
  rw [Cursor.cut_ofTokens_append ended, second] at first
  unfold readTokens
  cases long : Production.sentence (.ofTokens (tokens ++ e :: behind)) <;>
    cases short : Production.sentence (.ofTokens (tokens ++ [e])) <;>
    simp_all [Production.cutResult]

/-- Reading the kinds of another list of tokens gives the same instruction, whatever their lexemes
    and places are. -/
theorem toOption_readTokens_congr {tokens others : List Token}
    (same : others.map Token.kind = tokens.map Token.kind) :
    (readTokens others).toOption = (readTokens tokens).toOption := by
  have answers : ∀ (ts : List Token) (i : Instruction),
      (readTokens ts).toOption = some i ↔ readTokens ts = .ok i := by
    intro ts i
    cases readTokens ts <;> simp [Except.toOption]
  ext i
  rw [answers, answers, readTokens_eq_ok_iff, readTokens_eq_ok_iff, kindsBeforeEnd_congr same]

/-- A list of tokens is read as the instruction that the derivation of the kinds before its first
    end token builds, and is refused if these have none. The derivation is unique. Nothing behind
    the first end token counts, and an instruction does not depend on lexemes or places. -/
theorem readTokens_reads_grammar (tokens : List Token) :
    (∀ i, readTokens tokens = .ok i ↔
      ∃ d : Derivation (kindsBeforeEnd tokens), d.instruction = i) ∧
    (∀ d e : Derivation (kindsBeforeEnd tokens), d = e) ∧
    (∀ (e : Token) (behind : List Token), e.kind = .endOfInput →
      readTokens (tokens ++ e :: behind) = readTokens (tokens ++ [e])) ∧
    (∀ others : List Token, others.map Token.kind = tokens.map Token.kind →
      (readTokens others).toOption = (readTokens tokens).toOption) := by
  refine ⟨fun i => readTokens_eq_ok_iff, Derivation.unique, ?_, ?_⟩
  · intro e behind kind
    exact readTokens_append (by simp [Token.isEnd, kind]) tokens behind
  · intro others same
    exact toOption_readTokens_congr same

/-- The reading of `INITIALIZE R1 [01]`, also with a token behind the end token, and with other
    lexemes. -/
theorem readTokens_reads_grammar_load :
    (readTokens [⟨.keyword .load, "INITIALIZE", .start⟩, ⟨.register 1, "R1", .start⟩,
        ⟨.bits "01", "[01]", .start⟩] = .ok (.load 1 (some "01"))) ∧
      (readTokens ([⟨.keyword .load, "INITIALIZE", .start⟩, ⟨.register 1, "R1", .start⟩,
          ⟨.bits "01", "[01]", .start⟩] ++ Token.atEnd .start :: [⟨.number 3, "3", .start⟩]) =
        readTokens ([⟨.keyword .load, "INITIALIZE", .start⟩, ⟨.register 1, "R1", .start⟩,
          ⟨.bits "01", "[01]", .start⟩] ++ [Token.atEnd .start])) ∧
      (readTokens [⟨.keyword .load, "", .start⟩, ⟨.register 1, "", .start⟩,
        ⟨.bits "01", "", .start⟩]).toOption = some (.load 1 (some "01")) := by
  obtain ⟨reads, -, behindEnd, byKinds⟩ := readTokens_reads_grammar
    [⟨.keyword .load, "INITIALIZE", .start⟩, ⟨.register 1, "R1", .start⟩,
      ⟨.bits "01", "[01]", .start⟩]
  have read := (reads (.load 1 (some "01"))).mpr ⟨.loadBits 1 "01", rfl⟩
  refine ⟨read, behindEnd (Token.atEnd .start) _ rfl, ?_⟩
  refine (byKinds _ rfl).trans ?_
  rw [read]
  rfl

end QuantumAssembler
