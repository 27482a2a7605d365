import QuantumAssembler.Proofs.Program.Run
import QuantumAssembler.Proofs.Text.Margins

/-!
Module: QuantumAssembler.Proofs.Program.Tracing
Purpose: What tracing adds to a run. A traced computer accepts the instructions that are only traced,
  which an untraced one refuses, and does nothing on them; on all others the two agree. So a traced
  run is the untraced run of the text in which the lines with such instructions are emptied, and
  counts one more for each of them that it executes. A comment may read like an instruction, but no
  run executes it.
Main exports: Instruction.isTracedOnly, isTracedLine, untracedSource, Run.ExceedsBy, BringsOn,
  exceedsBy_runLines, runSource_traced, runSource_traced_comment
-/

namespace QuantumAssembler

/-- Whether an instruction has no effect but to be traced. -/
def Instruction.isTracedOnly : Instruction → Bool
  | .load .. | .select .. => false
  | .apply .. | .concat .. | .tensor .. | .measure .. | .inverse .. => true

/-- Whether a line reads as an instruction that is only traced. -/
def isTracedLine [NormalForm] (line : List Char) : Bool :=
  match readInstruction line with
  | .ok i => i.isTracedOnly
  | .error _ => false

/-- A line, or an empty line in place of one that is only traced. -/
def untracedLine [NormalForm] (line : List Char) : List Char :=
  if isTracedLine line then [] else line

/-- A text with empty lines in place of those that are only traced. -/
def untracedSource [NormalForm] (source : String) : String :=
  String.ofList (Text.replaceLines untracedLine source.toList)

/-- The lines that hold an instruction that is only traced. -/
def tracedLines [NormalForm] (lines : List (List Char)) : List (List Char) :=
  (lines.filter holdsInstruction).filter isTracedLine

/-! ### One instruction -/

namespace State

/-- An instruction that is only traced succeeds and changes nothing. -/
theorem carryOut_of_isTracedOnly {i : Instruction} (traced : i.isTracedOnly = true) (s : State) :
    s.carryOut true i = .ok s := by
  cases i with
  | load | select => cases traced
  | apply | concat | tensor | measure | inverse => rfl

/-- For the other instructions tracing makes no difference. -/
theorem carryOut_of_not_isTracedOnly {i : Instruction} (effective : i.isTracedOnly = false)
    (s : State) : s.carryOut true i = s.carryOut false i := by
  cases i with
  | load | select => rfl
  | apply | concat | tensor | measure | inverse => cases effective

end State

namespace Computer

/-- A traced computer executes what is only traced, and stays as it is. -/
theorem IsStandard.execute_of_isTracedOnly {c : Computer} (traced : c.IsStandard true)
    {i : Instruction} (only : i.isTracedOnly = true) :
    (c.execute i).outcome = .ok () ∧ (c.execute i).computer = c := by
  rw [traced.execute_outcome, traced.execute_computer, State.carryOut_of_isTracedOnly only]
  exact ⟨rfl, rfl⟩

/-- On other instructions a traced computer and an untraced one agree. -/
theorem IsStandard.execute_of_not_isTracedOnly {c d : Computer} (traced : c.IsStandard true)
    (untraced : d.IsStandard false) (same : c.state = d.state) {i : Instruction}
    (effective : i.isTracedOnly = false) :
    (c.execute i).outcome = (d.execute i).outcome ∧
      (c.execute i).computer.state = (d.execute i).computer.state := by
  rw [traced.execute_outcome, untraced.execute_outcome, traced.execute_computer,
    untraced.execute_computer, State.carryOut_of_not_isTracedOnly effective, same]
  exact ⟨rfl, rfl⟩

end Computer

/-! ### Lines -/

theorem holdsInstruction_nil : holdsInstruction [] = false := by
  decide

section Reading

variable [NormalForm]

theorem exists_of_isTracedLine {line : List Char} (only : isTracedLine line = true) :
    ∃ i, readInstruction line = .ok i ∧ i.isTracedOnly = true := by
  unfold isTracedLine at only
  split at only
  · rename_i i read
    exact ⟨i, read, only⟩
  · cases only

/-- Emptying lines does not make one hold an instruction. -/
theorem holdsInstruction_untracedLine {line : List Char} (ignored : holdsInstruction line = false) :
    holdsInstruction (untracedLine line) = false := by
  unfold untracedLine
  split
  · exact holdsInstruction_nil
  · exact ignored

theorem untracedLine_cases (line : List Char) : untracedLine line = line ∨ untracedLine line = [] := by
  unfold untracedLine
  split
  · exact .inr rfl
  · exact .inl rfl

/-- Lines without an instruction behind others change nothing. -/
theorem runLines_append_of_not_holds (c : Computer) (executed number : Nat)
    (row : List (List Char)) {gap : List (List Char)}
    (ignored : ∀ line ∈ gap, holdsInstruction line = false) :
    runLines c executed number (row ++ gap) = runLines c executed number row := by
  have idle : ∀ (d : Computer) (count place : Nat), runLines d count place gap = ⟨d, [], .ok count⟩ := by
    induction gap with
    | nil => exact fun d count place => rfl
    | cons line rest ih =>
        intro d count place
        rw [runLines_of_not_holds (ignored line List.mem_cons_self)]
        exact ih (fun other member => ignored other (List.mem_cons_of_mem line member)) d count _
  rw [runLines_append]
  cases ran : runLines c executed number row with
  | mk d trail outcome =>
      cases outcome with
      | error e => rfl
      | ok count => simp [idle, Run.after]

/-! ### Two runs side by side -/

/-- A run ends in the state of another one and fails as that one does; if it succeeds, it counts so
    many more instructions. -/
structure Run.ExceedsBy (surplus : Nat) (traced untraced : Run) : Prop where
  state : traced.computer.state = untraced.computer.state
  outcome : traced.outcome = untraced.outcome.map (· + surplus)

omit [NormalForm] in
theorem Run.ExceedsBy.after {surplus : Nat} {traced untraced : Run}
    (exceeds : ExceedsBy surplus traced untraced) (effects others : List Effect) :
    ExceedsBy surplus (traced.after effects) (untraced.after others) :=
  ⟨exceeds.state, exceeds.outcome⟩

/-- Two computers that a line brings on alike: it is carried out on both, which leaves them in equal
    states, or it fails on both for the same reason. -/
inductive BringsOn (c d : Computer) (line : List Char) : Prop where
  | executed {i : Instruction} (read : readInstruction line = .ok i)
      (done : (c.execute i).outcome = .ok ()) (doneToo : (d.execute i).outcome = .ok ())
      (state : (c.execute i).computer.state = (d.execute i).computer.state)
  | failed {fault : RunFault} (fails : FailsOn c line fault) (failsToo : FailsOn d line fault)

/-- A line that is not only traced brings on a traced computer and an untraced one alike. -/
theorem bringsOn_of_not_isTracedLine {c d : Computer} (traced : c.IsStandard true)
    (untraced : d.IsStandard false) (same : c.state = d.state) {line : List Char}
    (effective : isTracedLine line = false) : BringsOn c d line := by
  cases read : readInstruction line with
  | error e => exact .failed (.unreadable read) (.unreadable read)
  | ok i =>
      have affects : i.isTracedOnly = false := by simpa [isTracedLine, read] using effective
      obtain ⟨outcome, state⟩ := traced.execute_of_not_isTracedOnly untraced same affects
      cases result : (c.execute i).outcome with
      | error failure => exact .failed (.failed read result) (.failed read (outcome ▸ result))
      | ok done => exact .executed read result (outcome ▸ result) state

/-- Runs that stop at the same line for the same reason come to the same. -/
theorem exceedsBy_of_failsOn {c d : Computer} (traced : c.IsStandard true)
    (untraced : d.IsStandard false) (same : c.state = d.state) {line : List Char} {fault : RunFault}
    (holds : holdsInstruction line = true) (fails : FailsOn c line fault)
    (failsToo : FailsOn d line fault) (surplus executed other number : Nat)
    (rest behind : List (List Char)) :
    Run.ExceedsBy surplus (runLines c executed number (line :: rest))
      (runLines d other number (line :: behind)) := by
  obtain ⟨stopped, events, kept, ends⟩ := exists_runLines_of_failsOn holds fails
  obtain ⟨stoppedToo, eventsToo, keptToo, endsToo⟩ := exists_runLines_of_failsOn holds failsToo
  obtain rfl := kept true traced
  obtain rfl := keptToo false untraced
  rw [ends, endsToo]
  exact ⟨same, rfl⟩

/-- Run lines with tracing, and without it the lines in which those that are only traced are emptied.
    From equal states the two come to the same, but for the number of instructions. -/
theorem exceedsBy_runLines {c d : Computer} (traced : c.IsStandard true)
    (untraced : d.IsStandard false) (same : c.state = d.state) (executed number surplus : Nat)
    (lines : List (List Char)) :
    Run.ExceedsBy (surplus + (tracedLines lines).length)
      (runLines c (executed + surplus) number lines)
      (runLines d executed number (lines.map untracedLine)) := by
  induction lines generalizing c d executed number surplus with
  | nil => exact ⟨same, rfl⟩
  | cons line rest ih =>
      rw [List.map_cons]
      cases holds : holdsInstruction line with
      | false =>
          have others : tracedLines (line :: rest) = tracedLines rest := by
            simp [tracedLines, holds]
          rw [others, runLines_of_not_holds holds,
            runLines_of_not_holds (holdsInstruction_untracedLine holds)]
          exact ih traced untraced same executed (number + 1) surplus
      | true =>
          cases only : isTracedLine line with
          | true =>
              -- The line counts in the traced run and is passed over in the other.
              obtain ⟨i, read, onlyTraced⟩ := exists_of_isTracedLine only
              have emptied : untracedLine line = [] := if_pos only
              have counted : (tracedLines (line :: rest)).length =
                  1 + (tracedLines rest).length := by
                simp [tracedLines, holds, only, Nat.add_comm]
              obtain ⟨done, stays⟩ := traced.execute_of_isTracedOnly onlyTraced
              have next := ih traced untraced same executed (number + 1) (surplus + 1)
              rw [emptied, runLines_of_not_holds holdsInstruction_nil,
                runLines_of_executed holds read done, stays, counted, ← Nat.add_assoc]
              exact next.after _ []
          | false =>
              have kept : untracedLine line = line := if_neg (by simp [only])
              have others : tracedLines (line :: rest) = tracedLines rest := by
                simp [tracedLines, holds, only]
              rw [kept, others]
              rcases bringsOn_of_not_isTracedLine traced untraced same only with
                ⟨read, done, doneToo, state⟩ | ⟨fails, failsToo⟩
              · have next := ih (traced.execute _) (untraced.execute _) state (executed + 1)
                  (number + 1) surplus
                rw [runLines_of_executed holds read done, runLines_of_executed holds read doneToo,
                  Nat.add_right_comm]
                exact next.after _ _
              · exact exceedsBy_of_failsOn traced untraced same holds fails failsToo _ _ _ _ _ _

/-- A text comes to the same with tracing as the text without the lines that are only traced comes to
    without tracing. If the run succeeds, it has executed one more instruction for each of these
    lines that is no comment. -/
theorem runSource_traced {side : Nat} (positive : 0 < side) (count : Nat) :
    ∃ c d, Computer.standard side count true = .ok c ∧
      Computer.standard side count false = .ok d ∧
      ∀ source, Run.ExceedsBy (tracedLines (Text.lines source.toList)).length
        (runSource c source) (runSource d (untracedSource source)) := by
  refine ⟨_, _, Computer.standard_eq_ok positive count true,
    Computer.standard_eq_ok positive count false, ?_⟩
  intro source
  obtain ⟨gap, lined, empty⟩ := Text.lines_replaceLines untracedLine_cases source.toList
  have ignored : ∀ line ∈ gap, holdsInstruction line = false := by
    intro line member
    rw [empty line member]
    exact holdsInstruction_nil
  have sideBySide := @exceedsBy_runLines _ ⟨.fresh side count, .standard true⟩
    ⟨.fresh side count, .standard false⟩ rfl rfl rfl 0 1 0 (Text.lines source.toList)
  rw [lined, runLines_append_of_not_holds _ _ _ _ ignored, Nat.zero_add] at sideBySide
  rwa [runSource, runSource, untracedSource, String.toList_ofList]

end Reading

/-- Of two lines that read as the same gate, the one that is a comment is not executed and does not
    count. -/
theorem runSource_traced_gate :
    ∃ c d, Computer.standard 1 1 true = .ok c ∧ Computer.standard 1 1 false = .ok d ∧
      (runSource c "# APPLY H R0\nAPPLY H R0").outcome = .ok 1 ∧
      (runSource c "# APPLY H R0\nAPPLY H R0").computer.state =
        (runSource d (untracedSource "# APPLY H R0\nAPPLY H R0")).computer.state := by
  obtain ⟨c, d, built, plain, exceeds⟩ := runSource_traced (by decide : 0 < 1) 1
  obtain ⟨state, outcome⟩ := exceeds "# APPLY H R0\nAPPLY H R0"
  refine ⟨c, d, built, plain, ?_, state⟩
  have same := Computer.standard_eq_ok (by decide : 0 < 1) 1 false
  rw [plain] at same
  cases same
  have none : (runSource ⟨.fresh 1 1, .standard false⟩
      (untracedSource "# APPLY H R0\nAPPLY H R0")).outcome = .ok 0 := by
    decide +kernel
  have one : (tracedLines (Text.lines "# APPLY H R0\nAPPLY H R0".toList)).length = 1 := by
    decide +kernel
  rw [outcome, none, one]
  rfl

/-- A comment that reads as a gate is emptied, but it does not count in the traced run. -/
theorem runSource_traced_comment :
    ∃ c d, Computer.standard 1 1 true = .ok c ∧ Computer.standard 1 1 false = .ok d ∧
      ((Text.lines "# APPLY H R0".toList).filter isTracedLine).length = 1 ∧
      (runSource c "# APPLY H R0").outcome = .ok 0 ∧
      (runSource d (untracedSource "# APPLY H R0")).outcome = .ok 0 ∧
      ¬ Run.ExceedsBy ((Text.lines "# APPLY H R0".toList).filter isTracedLine).length
        (runSource c "# APPLY H R0") (runSource d (untracedSource "# APPLY H R0")) := by
  have emptied : ((Text.lines "# APPLY H R0".toList).filter isTracedLine).length = 1 := by
    decide +kernel
  have traced : (runSource ⟨.fresh 1 1, .standard true⟩ "# APPLY H R0").outcome = .ok 0 := by
    decide +kernel
  have untraced : (runSource ⟨.fresh 1 1, .standard false⟩
      (untracedSource "# APPLY H R0")).outcome = .ok 0 := by
    decide +kernel
  refine ⟨_, _, Computer.standard_eq_ok (by decide) 1 true,
    Computer.standard_eq_ok (by decide) 1 false, emptied, traced, untraced, ?_⟩
  rintro ⟨-, outcome⟩
  rw [emptied, traced, untraced] at outcome
  cases outcome

end QuantumAssembler
