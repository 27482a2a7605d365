import Mathlib.Data.List.TakeWhile
import QuantumAssembler.Proofs.Language.Grammar

/-!
Module: QuantumAssembler.Proofs.Language.ViablePrefix
Purpose: Where the reading of a list of tokens stops. A row of kinds is viable if some sentence with
  an end token behind it begins with it. A list that is no sentence is refused at the first token
  that makes the row viable no longer: not before it, and without a look at what stands behind it.
Main exports: Viable, SyntaxError.PointsAt, Production.Accepts, Production.Sharp,
  Production.Sharp.bind, Production.Sharp.bind_kind, Production.sharp_instruction,
  Cursor.Closed.exists_of_reads, readTokens_stops_at_first_hopeless
-/

namespace QuantumAssembler

/-! ### Viable rows of kinds -/

/-- Some sentence, with an end token behind it, begins with these kinds. -/
def Viable (ks : List TokenKind) : Prop :=
  ∃ sentence, Nonempty (Derivation sentence) ∧ ks <+: sentence ++ [.endOfInput]

theorem Viable.of_prefix {ks others : List TokenKind} (viable : Viable ks) (front : others <+: ks) :
    Viable others := by
  obtain ⟨sentence, derived, begins⟩ := viable
  exact ⟨sentence, derived, front.trans begins⟩

theorem viable_nil : Viable [] :=
  ⟨_, ⟨.load 0⟩, List.nil_prefix⟩

/-! What stands behind the first token of a viable row is decided by that token. -/

section FirstToken

variable {ks : List TokenKind}

theorem viable_load_iff :
    Viable (.keyword .load :: ks) ↔
      (∃ target, ks <+: [.register target, .endOfInput]) ∨
        ∃ target digits, ks <+: [.register target, .bits digits, .endOfInput] := by
  constructor
  · intro viable
    obtain ⟨sentence, ⟨d⟩, begins⟩ := viable
    cases d with
    | load target => exact .inl ⟨target, by simpa using begins⟩
    | loadBits target digits => exact .inr ⟨target, digits, by simpa using begins⟩
    | select | apply | concat | tensor | measure | inverse => simp at begins
  · intro begins
    obtain ⟨target, begins⟩ | ⟨target, digits, begins⟩ := begins
    · exact ⟨_, ⟨.load target⟩, by simpa using begins⟩
    · exact ⟨_, ⟨.loadBits target digits⟩, by simpa using begins⟩

theorem viable_select_iff :
    Viable (.keyword .select :: ks) ↔
      ∃ target source offset count,
        ks <+: [.name target, .register source, .number offset, .number count, .endOfInput] := by
  constructor
  · intro viable
    obtain ⟨sentence, ⟨d⟩, begins⟩ := viable
    cases d with
    | select target source offset count =>
        exact ⟨target, source, offset, count, by simpa using begins⟩
    | load | loadBits | apply | concat | tensor | measure | inverse => simp at begins
  · intro begins
    obtain ⟨target, source, offset, count, begins⟩ := begins
    exact ⟨_, ⟨.select target source offset count⟩, by simpa using begins⟩

theorem viable_apply_iff :
    Viable (.keyword .apply :: ks) ↔
      ∃ operator target, ks <+: [operator, .register target, .endOfInput] ∧
        Nonempty (MatrixDerivation operator) := by
  constructor
  · intro viable
    obtain ⟨sentence, ⟨d⟩, begins⟩ := viable
    cases d with
    | apply matrix target => exact ⟨_, target, by simpa using begins, ⟨matrix⟩⟩
    | load | loadBits | select | concat | tensor | measure | inverse => simp at begins
  · intro begins
    obtain ⟨operator, target, begins, ⟨matrix⟩⟩ := begins
    exact ⟨_, ⟨.apply matrix target⟩, by simpa using begins⟩

theorem viable_measure_iff :
    Viable (.keyword .measure :: ks) ↔
      ∃ source target, ks <+: [.register source, .name target, .endOfInput] := by
  constructor
  · intro viable
    obtain ⟨sentence, ⟨d⟩, begins⟩ := viable
    cases d with
    | measure source target => exact ⟨source, target, by simpa using begins⟩
    | load | loadBits | select | apply | concat | tensor | inverse => simp at begins
  · intro begins
    obtain ⟨source, target, begins⟩ := begins
    exact ⟨_, ⟨.measure source target⟩, by simpa using begins⟩

theorem viable_name_iff {target : String} :
    Viable (.name target :: ks) ↔
      (∃ left right, ks <+: [.keyword .concat, left, right, .endOfInput] ∧
        Nonempty (MatrixDerivation left) ∧ Nonempty (MatrixDerivation right)) ∨
      (∃ left right, ks <+: [.keyword .tensor, left, right, .endOfInput] ∧
        Nonempty (MatrixDerivation left) ∧ Nonempty (MatrixDerivation right)) ∨
      ∃ operand, ks <+: [.keyword .inverse, operand, .endOfInput] ∧
        Nonempty (MatrixDerivation operand) := by
  constructor
  · intro viable
    obtain ⟨sentence, ⟨d⟩, begins⟩ := viable
    cases d with
    | concat other left right =>
        exact .inl ⟨_, _, (List.cons_prefix_cons.mp begins).2, ⟨left⟩, ⟨right⟩⟩
    | tensor other left right =>
        exact .inr (.inl ⟨_, _, (List.cons_prefix_cons.mp begins).2, ⟨left⟩, ⟨right⟩⟩)
    | inverse other matrix =>
        exact .inr (.inr ⟨_, (List.cons_prefix_cons.mp begins).2, ⟨matrix⟩⟩)
    | load | loadBits | select | apply | measure => simp at begins
  · intro begins
    rcases begins with ⟨_, _, begins, ⟨left⟩, ⟨right⟩⟩ | ⟨_, _, begins, ⟨left⟩, ⟨right⟩⟩ |
      ⟨_, begins, ⟨matrix⟩⟩
    · exact ⟨_, ⟨.concat target left right⟩, by simpa using begins⟩
    · exact ⟨_, ⟨.tensor target left right⟩, by simpa using begins⟩
    · exact ⟨_, ⟨.inverse target matrix⟩, by simpa using begins⟩

end FirstToken

/-! ### Errors that point at a token -/

namespace SyntaxError

/-- The message says that the input ended. -/
def TellsEnd (e : SyntaxError) : Prop :=
  "found end of input".toList <:+ e.message.toList

/-- The error is reported at this token, and tells the end of the input if this is an end token. -/
def PointsAt (e : SyntaxError) (t : Token) : Prop :=
  e.position = t.position ∧ (e.TellsEnd ↔ t.kind = .endOfInput)

theorem tellsEnd_endedEarly (demand : Demand) (p : Position) :
    TellsEnd ⟨.endedEarly demand, p⟩ := by
  refine ⟨demand.text.toList ++ ", ".toList, ?_⟩
  rw [message, String.toList_append, List.append_assoc]
  rfl

theorem not_tellsEnd_unmet (demand : Demand) (p : Position) :
    ¬ TellsEnd ⟨.unmet demand, p⟩ := by
  rw [TellsEnd, message, String.toList_ofList]
  -- The characters of a literal are spelled out before they are compared.
  cases demand <;> simp only [Demand.text] <;> rw [String.toList_ofList] <;> decide

theorem not_tellsEnd_noInstruction {found : TokenKind} (inner : found ≠ .endOfInput)
    (p : Position) : ¬ TellsEnd ⟨.noInstruction found, p⟩ := by
  rw [TellsEnd, message, String.toList_append, String.toList_ofList, String.toList_ofList]
  cases found with
  | register | identity | bits | number | name =>
      simp only [TokenKind.className]
      rw [String.toList_ofList]
      decide
  | keyword k =>
      cases k <;> simp only [TokenKind.className, Keyword.word] <;> rw [String.toList_ofList] <;>
        decide
  | endOfInput => exact absurd rfl inner

theorem not_tellsEnd_trailing (found : TokenKind) (p : Position) :
    ¬ TellsEnd ⟨.trailing found, p⟩ := by
  intro tells
  have ending : " after instruction".toList <:+ (message ⟨.trailing found, p⟩).toList := by
    rw [message, String.toList_append]
    exact List.suffix_append _ _
  exact absurd (List.suffix_of_suffix_length_le tells ending (by decide)) (by decide)

/-- A refusal points at the token at the cursor. -/
theorem pointsAt_refuse (demand : Demand) (t : Token) :
    PointsAt ⟨if t.isEnd then .endedEarly demand else .unmet demand, t.position⟩ t := by
  refine ⟨rfl, ?_⟩
  by_cases ended : t.kind = .endOfInput
  · simpa [Token.isEnd, ended] using tellsEnd_endedEarly demand _
  · simpa [Token.isEnd, ended] using not_tellsEnd_unmet demand _

end SyntaxError

namespace Production

variable {α : Type} {before : List TokenKind}

/-! ### Productions that read one token -/

/-- A production that reads one token, or stops at it if it spells nothing that is asked for. -/
structure Accepts (p : Production α) (spells : TokenKind → α → Prop) : Prop where
  reads : ∀ {c after : Cursor} {a : α}, p c = .ok a after ↔ ∃ k, spells k a ∧ c.Reads [k] after
  inner : ∀ a, ¬ spells .endOfInput a
  stops : ∀ {c after : Cursor} {e : SyntaxError}, p c = .error e after →
    after = c ∧ e.PointsAt c.current

theorem stops_accept {choose : TokenKind → Option α} {demand : Demand} {c after : Cursor}
    {e : SyntaxError} (stopped : accept choose demand c = .error e after) :
    after = c ∧ e.PointsAt c.current := by
  unfold accept at stopped
  split at stopped
  · cases stopped
  · cases stopped
    exact ⟨rfl, SyntaxError.pointsAt_refuse demand c.current⟩

theorem accepts_register (demand : Demand) :
    Accepts (register demand) fun k index => k = .register index where
  reads := by simp [register_eq_ok_iff]
  inner := by simp
  stops := stops_accept

theorem accepts_name (demand : Demand) :
    Accepts (name demand) fun k spelling => k = .name spelling where
  reads := by simp [name_eq_ok_iff]
  inner := by simp
  stops := stops_accept

theorem accepts_number (demand : Demand) :
    Accepts (number demand) fun k value => k = .number value where
  reads := by simp [number_eq_ok_iff]
  inner := by simp
  stops := stops_accept

theorem exists_operand_iff {k : TokenKind} :
    (∃ operand, ∃ d : MatrixDerivation k, d.operand = operand) ↔
      Nonempty (MatrixDerivation k) :=
  ⟨fun ⟨_, d, _⟩ => ⟨d⟩, fun ⟨d⟩ => ⟨_, d, rfl⟩⟩

theorem exists_matrixDerivation : ∃ k, Nonempty (MatrixDerivation k) :=
  ⟨_, ⟨.cnot⟩⟩

theorem accepts_matrix :
    Accepts matrix fun k operand => ∃ d : MatrixDerivation k, d.operand = operand where
  reads := matrix_eq_ok_iff
  inner := by
    rintro operand ⟨d, -⟩
    cases d
  stops := stops_accept

theorem accepts_assignment :
    Accepts assignment fun k operation => k = .keyword operation.keyword where
  reads := by simp [assignment_eq_ok_iff]
  inner := by simp
  stops := stops_accept

/-! ### Productions that stop in the right place -/

/-- What has been read is viable, and with the token at the cursor it is so no longer. -/
structure Stuck (read : List TokenKind) (c : Cursor) : Prop where
  viable : Viable read
  hopeless : ¬ Viable (read ++ [c.current.kind])

/-- The result of reading from the cursor `c` on, behind the kinds `before`: an error points at the
    token at which reading is stuck, and behind an instruction nothing but an end token can follow.
    -/
def Settles (before : List TokenKind) (c : Cursor) :
    EStateM.Result SyntaxError Cursor Instruction → Prop
  | .ok _ after => ∃ ks, c.Reads ks after ∧
      (after.current.kind ≠ .endOfInput → Stuck (before ++ ks) after)
  | .error e after => ∃ ks, c.Reads ks after ∧ Stuck (before ++ ks) after ∧
      e.PointsAt after.current

/-- A token read before belongs to what is read. -/
theorem Settles.cons {c middle : Cursor} {k : TokenKind} (read : c.Reads [k] middle)
    {r : EStateM.Result SyntaxError Cursor Instruction} (settles : Settles (before ++ [k]) middle r) :
    Settles before c r := by
  cases r with
  | ok i after =>
      obtain ⟨ks, reads, stuck⟩ := settles
      exact ⟨k :: ks, read.cons reads, by simpa using stuck⟩
  | error e after =>
      obtain ⟨ks, reads, stuck⟩ := settles
      exact ⟨k :: ks, read.cons reads, by simpa using stuck⟩

/-- Behind the kinds `before`, a production reads on as long as what is read stays viable. -/
def Sharp (before : List TokenKind) (p : Production Instruction) : Prop :=
  Viable before → ∀ c, Settles before c (p c)

/-- Nothing is read any more when only an end token can follow. -/
theorem Sharp.pure (ends : ∀ k, Viable (before ++ [k]) ↔ k = .endOfInput) (i : Instruction) :
    Sharp before (pure i) := by
  intro viable c
  refine ⟨[], rfl, fun inner => ?_⟩
  rw [List.append_nil]
  exact ⟨viable, fun more => inner ((ends _).mp more)⟩

/-- One token is read first: what it may spell is what may follow, and whatever it spells, reading
    goes on in the right way. -/
theorem Sharp.bind {p : Production α} {spells : TokenKind → α → Prop}
    {f : α → Production Instruction} (accepts : Accepts p spells)
    (next : ∀ k, Viable (before ++ [k]) ↔ ∃ a, spells k a)
    (then_ : ∀ k a, spells k a → Sharp (before ++ [k]) (f a)) : Sharp before (p >>= f) := by
  intro viable c
  change Settles before c (EStateM.bind p f c)
  unfold EStateM.bind
  cases first : p c with
  | error e after =>
      obtain ⟨rfl, points⟩ := accepts.stops first
      refine ⟨[], rfl, ?_, points⟩
      rw [List.append_nil]
      refine ⟨viable, fun more => ?_⟩
      obtain ⟨a, spelled⟩ := (next _).mp more
      have inner : after.current.kind ≠ .endOfInput := fun ended =>
        accepts.inner a (ended ▸ spelled)
      cases first.symm.trans (accepts.reads.mpr ⟨_, spelled, rfl, inner, rfl⟩)
  | ok a middle =>
      obtain ⟨k, spelled, read⟩ := accepts.reads.mp first
      exact .cons read (then_ k a spelled ((next k).mpr ⟨a, spelled⟩) middle)

/-- A token of a known kind is read first: whatever its value, reading goes on in the right way. -/
theorem Sharp.bind_kind {p : Production α} {kindOf : α → TokenKind}
    {f : α → Production Instruction} (accepts : Accepts p fun k a => k = kindOf a)
    (next : ∀ k, Viable (before ++ [k]) ↔ ∃ a, k = kindOf a)
    (then_ : ∀ a, Sharp (before ++ [kindOf a]) (f a)) : Sharp before (p >>= f) := by
  apply Sharp.bind accepts next
  rintro k a rfl
  exact then_ a

/-- A matrix is read first: whatever operand it is, reading goes on in the right way. -/
theorem Sharp.bind_matrix {f : MatrixRef → Production Instruction}
    (next : ∀ k, Viable (before ++ [k]) ↔ Nonempty (MatrixDerivation k))
    (then_ : ∀ k operand, Nonempty (MatrixDerivation k) → Sharp (before ++ [k]) (f operand)) :
    Sharp before (matrix >>= f) := by
  apply Sharp.bind accepts_matrix
  · intro k
    exact (next k).trans exists_operand_iff.symm
  · intro k operand spelled
    exact then_ k operand (exists_operand_iff.mp ⟨operand, spelled⟩)

/-- Bits may be read before the end. -/
theorem Sharp.optionalBits
    (next : ∀ k, Viable (before ++ [k]) ↔ k = .endOfInput ∨ ∃ digits, k = .bits digits)
    (ends : ∀ digits k, Viable (before ++ [.bits digits] ++ [k]) ↔ k = .endOfInput)
    (build : Option String → Instruction) :
    Sharp before (do return build (← optionalBits)) := by
  intro viable c
  change Settles before c (EStateM.bind Production.optionalBits _ c)
  unfold EStateM.bind
  cases first : Production.optionalBits c with
  | error e after =>
      unfold Production.optionalBits at first
      split at first <;> cases first
  | ok bits after =>
      rcases optionalBits_eq_ok_iff.mp first with ⟨digits, rfl, read⟩ | ⟨rfl, rfl, none⟩
      · exact .cons read (Sharp.pure (ends digits) _ ((next _).mpr (.inr ⟨digits, rfl⟩)) after)
      · refine ⟨[], rfl, fun inner => ?_⟩
        rw [List.append_nil]
        refine ⟨viable, fun more => ?_⟩
        rcases (next _).mp more with ended | ⟨digits, found⟩
        · exact inner ended
        · exact none digits found

/-! ### The productions -/

theorem sharp_loadOperands : Sharp [.keyword .load] loadOperands := by
  refine .bind_kind (accepts_register _) (fun k => ?_) fun target => ?_
  · simp [viable_load_iff]
  · refine .optionalBits (fun k => ?_) (fun digits k => ?_) _
    · simp [viable_load_iff]
    · simp [viable_load_iff]

theorem sharp_selectOperands : Sharp [.keyword .select] selectOperands := by
  refine .bind_kind (accepts_name _) (fun k => ?_) fun target => ?_
  · simp [viable_select_iff]
  refine .bind_kind (accepts_register _) (fun k => ?_) fun source => ?_
  · simp [viable_select_iff]
  refine .bind_kind (accepts_number _) (fun k => ?_) fun offset => ?_
  · simp [viable_select_iff]
  refine .bind_kind (accepts_number _) (fun k => ?_) fun count => ?_
  · simp [viable_select_iff]
  refine .pure (fun k => ?_) _
  simp [viable_select_iff]

theorem sharp_applyOperands : Sharp [.keyword .apply] applyOperands := by
  refine .bind_matrix (fun k => ?_) fun operator _ matrix => ?_
  · simp [viable_apply_iff]
  refine .bind_kind (accepts_register _) (fun k => ?_) fun target => ?_
  · simp [viable_apply_iff, and_assoc, matrix]
  refine .pure (fun k => ?_) _
  simp [viable_apply_iff, and_assoc, matrix]

theorem sharp_measureOperands : Sharp [.keyword .measure] measureOperands := by
  refine .bind_kind (accepts_register _) (fun k => ?_) fun source => ?_
  · simp [viable_measure_iff]
  refine .bind_kind (accepts_name _) (fun k => ?_) fun target => ?_
  · simp [viable_measure_iff]
  refine .pure (fun k => ?_) _
  simp [viable_measure_iff]

/-- Two matrices are read in the right way where they can stand, an end token behind them. -/
theorem sharp_matrices (build : MatrixRef → MatrixRef → Instruction)
    (stand : ∀ ks, Viable (before ++ ks) ↔
      ∃ left right, ks <+: [left, right, .endOfInput] ∧
        Nonempty (MatrixDerivation left) ∧ Nonempty (MatrixDerivation right)) :
    Sharp before (do return build (← matrix) (← matrix)) := by
  refine .bind_matrix (fun k => ?_) fun left _ first => ?_
  · simp [stand, exists_matrixDerivation]
  refine .bind_matrix (fun k => ?_) fun right _ second => ?_
  · simp [stand, and_assoc, first]
  refine .pure (fun k => ?_) _
  simp [stand, and_assoc, first, second]

theorem sharp_operands (target : String) (operation : Assignment) :
    Sharp [.name target, .keyword operation.keyword] (operands target operation) := by
  cases operation with
  | concat => exact sharp_matrices _ fun ks => by simp [viable_name_iff, Assignment.keyword]
  | tensor => exact sharp_matrices _ fun ks => by simp [viable_name_iff, Assignment.keyword]
  | inverse =>
      refine .bind_matrix (fun k => ?_) fun operand _ matrix => ?_
      · simp [viable_name_iff, Assignment.keyword]
      refine .pure (fun k => ?_) _
      simp [viable_name_iff, Assignment.keyword, and_assoc, matrix]

theorem sharp_assignmentTo (target : String) :
    Sharp [.name target] (assignmentTo target) := by
  refine .bind_kind accepts_assignment (fun k => ?_) fun operation => ?_
  · simp only [List.cons_append, List.nil_append, viable_name_iff, List.cons_prefix_cons,
      List.nil_prefix, and_true]
    constructor
    · rintro (⟨_, _, rfl, -⟩ | ⟨_, _, rfl, -⟩ | ⟨_, rfl, -⟩)
      · exact ⟨.concat, rfl⟩
      · exact ⟨.tensor, rfl⟩
      · exact ⟨.inverse, rfl⟩
    · rintro ⟨operation, rfl⟩
      cases operation <;> simp [Assignment.keyword, exists_matrixDerivation]
  · exact sharp_operands target operation

/-- A kind that begins no production is no viable row. -/
theorem not_viable_of_leading {k : TokenKind} (noLoad : k ≠ .keyword .load)
    (noSelect : k ≠ .keyword .select) (noApply : k ≠ .keyword .apply)
    (noMeasure : k ≠ .keyword .measure) (noName : ∀ target, k ≠ .name target) :
    ¬ Viable [k] := by
  rintro ⟨sentence, ⟨d⟩, begins⟩
  cases d with
  | load => exact noLoad (List.cons_prefix_cons.mp begins).1
  | loadBits => exact noLoad (List.cons_prefix_cons.mp begins).1
  | select => exact noSelect (List.cons_prefix_cons.mp begins).1
  | apply => exact noApply (List.cons_prefix_cons.mp begins).1
  | concat target => exact noName target (List.cons_prefix_cons.mp begins).1
  | tensor target => exact noName target (List.cons_prefix_cons.mp begins).1
  | measure => exact noMeasure (List.cons_prefix_cons.mp begins).1
  | inverse target => exact noName target (List.cons_prefix_cons.mp begins).1

/-- The first token decides on the production; an instruction is read in the right way. -/
theorem sharp_instruction : Sharp [] instruction := by
  intro _ c
  have first : ∀ {k : TokenKind} {p : Production Instruction}, c.current.kind = k →
      k ≠ .endOfInput → Viable [k] → Sharp [k] p → Settles [] c (p c.advance) := by
    intro k p kind inner viable sharp
    exact .cons ⟨kind, inner, rfl⟩ (sharp viable c.advance)
  unfold instruction
  split
  · exact first ‹_› (by simp) (by simp [viable_load_iff]) sharp_loadOperands
  · exact first ‹_› (by simp) (by simp [viable_select_iff]) sharp_selectOperands
  · exact first ‹_› (by simp) (by simp [viable_apply_iff, exists_matrixDerivation])
      sharp_applyOperands
  · exact first ‹_› (by simp) (by simp [viable_measure_iff]) sharp_measureOperands
  · exact first ‹_› (by simp) (by simp [viable_name_iff, exists_matrixDerivation])
      (sharp_assignmentTo _)
  · rename_i ended
    refine ⟨[], rfl, ⟨viable_nil, ?_⟩, SyntaxError.pointsAt_refuse .instruction c.current⟩
    rw [ended]
    exact not_viable_of_leading (by simp) (by simp) (by simp) (by simp) (by simp)
  · rename_i noLoad noSelect noApply noMeasure noName inner
    refine ⟨[], rfl, ⟨viable_nil, ?_⟩, rfl, ?_⟩
    · exact not_viable_of_leading noLoad noSelect noApply noMeasure noName
    · exact iff_of_false (SyntaxError.not_tellsEnd_noInstruction inner _) inner

/-- A list that is no sentence is refused at the token at which reading is stuck. -/
theorem stuck_of_sentence {c after : Cursor} {e : SyntaxError}
    (stopped : sentence c = .error e after) :
    ∃ ks, c.Reads ks after ∧ Stuck ks after ∧ e.PointsAt after.current := by
  have settles := sharp_instruction viable_nil c
  unfold sentence at stopped
  cases first : instruction c with
  | error other middle =>
      rw [first] at settles stopped
      cases stopped
      exact settles
  | ok i middle =>
      rw [first] at settles stopped
      obtain ⟨ks, reads, stuck⟩ := settles
      by_cases ended : middle.current.kind = .endOfInput
      · simp [Token.isEnd, ended] at stopped
      · simp only [Token.isEnd, beq_iff_eq, ended, if_false] at stopped
        cases stopped
        exact ⟨ks, reads, stuck ended, rfl,
          iff_of_false (SyntaxError.not_tellsEnd_trailing _ _) ended⟩

end Production

/-! ### Lists of tokens -/

namespace Cursor

/-- What is read from a closed cursor on stands in front of the cursor at which reading stops. -/
theorem Closed.exists_of_reads {c after : Cursor} {ks : List TokenKind} (closed : c.Closed)
    (reads : c.Reads ks after) :
    ∃ read, c.current :: c.later = read ++ after.current :: after.later ∧
      read.map Token.kind = ks := by
  induction ks generalizing c with
  | nil =>
      obtain rfl : c = after := reads
      exact ⟨[], rfl, rfl⟩
  | cons k ks ih =>
      obtain ⟨kind, inner, reads⟩ := reads
      obtain ⟨t, later, behind, step, -⟩ := closed.step (kind ▸ inner)
      obtain ⟨read, whole, kinds⟩ := ih closed.advance reads
      rw [step] at whole
      exact ⟨c.current :: read, by rw [behind, whole]; rfl, by simp [kind, kinds]⟩

/-- A list that ends in an end token is read from its first token on. -/
theorem ofTokens_append {e : Token} (ended : e.isEnd = true) (tokens : List Token) :
    (ofTokens (tokens ++ [e])).current :: (ofTokens (tokens ++ [e])).later = tokens ++ [e] := by
  have whole : closed (tokens ++ [e]) = tokens ++ [e] := by simp [closed, ended]
  unfold ofTokens
  rw [whole]
  cases tokens <;> rfl

end Cursor

/-- A list of tokens, with an end token as its last and only one, that is no sentence is refused at
    the first token up to which its kinds are not viable: all rows of kinds from the front of the
    list that are shorter are viable. The message tells the end of the input exactly if this token
    is the end token. -/
theorem readTokens_stops_at_first_hopeless {inner : List Token} {e : Token}
    (proper : ∀ t ∈ inner, t.kind ≠ .endOfInput) (ended : e.kind = .endOfInput)
    (noSentence : ¬ Nonempty (Derivation (inner.map Token.kind))) :
    ∃ error k t, readTokens (inner ++ [e]) = .error error ∧ (inner ++ [e])[k]? = some t ∧
      (∀ j, Viable (((inner ++ [e]).map Token.kind).take j) ↔ j ≤ k) ∧
      error.position = t.position ∧
      ("found end of input".toList <:+ error.message.toList ↔ t.kind = .endOfInput) := by
  have atEnd : e.isEnd = true := by simp [Token.isEnd, ended]
  have kinds : kindsBeforeEnd (inner ++ [e]) = inner.map Token.kind := by
    rw [kindsBeforeEnd_append atEnd, kindsBeforeEnd, List.takeWhile_eq_self_iff.mpr]
    intro t member
    simp [Token.isEnd, proper t member]
  cases result : Production.sentence (.ofTokens (inner ++ [e])) with
  | ok i after =>
      have read : readTokens (inner ++ [e]) = .ok i := by rw [readTokens, result]
      obtain ⟨d, -⟩ := readTokens_eq_ok_iff.mp read
      exact absurd ⟨kinds ▸ d⟩ noSentence
  | error error after =>
      obtain ⟨ks, reads, ⟨viable, hopeless⟩, place, tells⟩ := Production.stuck_of_sentence result
      obtain ⟨read, whole, rfl⟩ :=
        (Cursor.closed_ofTokens (inner ++ [e])).1.exists_of_reads reads
      rw [Cursor.ofTokens_append atEnd] at whole
      refine ⟨error, read.length, after.current, by rw [readTokens, result], by simp [whole], ?_,
        place, tells⟩
      intro j
      rw [whole, List.map_append, List.map_cons]
      constructor
      · intro viableFront
        by_contra beyond
        refine hopeless (viableFront.of_prefix (List.prefix_take_iff.mpr ⟨?_, ?_⟩))
        · exact ⟨after.later.map Token.kind, by simp⟩
        · simp only [List.length_append, List.length_map, List.length_singleton]
          omega
      · intro short
        rw [List.take_append_of_le_length (by simpa using short)]
        exact viable.of_prefix (List.take_prefix j _)

/-- Of `INITIALIZE R0 [1] [0]`, the second bit-string is one too many. -/
theorem readTokens_stops_at_first_hopeless_bits :
    (∀ t ∈ [⟨.keyword .load, "INITIALIZE", ⟨1, 1⟩⟩, ⟨.register 0, "R0", ⟨1, 12⟩⟩,
        ⟨.bits "1", "[1]", ⟨1, 15⟩⟩, (⟨.bits "0", "[0]", ⟨1, 19⟩⟩ : Token)],
        t.kind ≠ .endOfInput) ∧
      ¬ Nonempty (Derivation [.keyword .load, .register 0, .bits "1", .bits "0"]) ∧
      readTokens [⟨.keyword .load, "INITIALIZE", ⟨1, 1⟩⟩, ⟨.register 0, "R0", ⟨1, 12⟩⟩,
        ⟨.bits "1", "[1]", ⟨1, 15⟩⟩, ⟨.bits "0", "[0]", ⟨1, 19⟩⟩, .atEnd ⟨1, 22⟩] =
          .error ⟨.trailing (.bits "0"), ⟨1, 19⟩⟩ ∧
      ∀ j, Viable ([.keyword .load, .register 0, .bits "1", .bits "0", .endOfInput].take j) ↔
        j ≤ 3 := by
  have proper : ∀ t ∈ [⟨.keyword .load, "INITIALIZE", ⟨1, 1⟩⟩, ⟨.register 0, "R0", ⟨1, 12⟩⟩,
      ⟨.bits "1", "[1]", ⟨1, 15⟩⟩, (⟨.bits "0", "[0]", ⟨1, 19⟩⟩ : Token)],
      t.kind ≠ .endOfInput := by
    decide
  have noSentence :
      ¬ Nonempty (Derivation [.keyword .load, .register 0, .bits "1", .bits "0"]) := by
    rintro ⟨⟨⟩⟩
  obtain ⟨error, k, t, refused, found, viable, place, -⟩ :=
    readTokens_stops_at_first_hopeless proper (e := .atEnd ⟨1, 22⟩) rfl noSentence
  cases refused
  refine ⟨proper, noSentence, rfl, ?_⟩
  rcases k with _ | _ | _ | _ | _ | k
  · cases found; cases place
  · cases found; cases place
  · cases found; cases place
  · exact viable
  · cases found; cases place
  · cases found

end QuantumAssembler
