import QuantumAssembler.Proofs.Machine.RegisterShape
import QuantumAssembler.Proofs.Machine.Variables

/-!
Module: QuantumAssembler.Proofs.Machine.Independence
Purpose: What an instruction reads and what it writes. Whether it can be carried out, and what it then
  changes, hangs only on the side and the number of the registers and on the content of the register
  that it selects from; what it changes is one register or one variable. So two instructions of which
  neither writes what the other reads or writes can be executed in either order: both succeed or fail
  as they do in the other order, and the computer ends up the same.
Main exports: Instruction.Conflicts, Place, Instruction.target?, Instruction.source?,
  Instruction.not_conflicts_iff, Change, State.changed, State.LooksAlike, State.exists_verdict,
  State.settled_comm, Computer.independent_instructions_commute
-/

namespace QuantumAssembler

/-! ### What instructions read and write -/

/-- Two instructions conflict if both fill one register, if one fills the register that the other
    selects from, or if both select into one variable. -/
def Instruction.Conflicts : Instruction → Instruction → Prop
  | .load first _, .load second _ => first = second
  | .load filled _, .select _ source _ _ => filled = source
  | .select _ source _ _, .load filled _ => source = filled
  | .select first _ _ _, .select second _ _ _ => first = second
  | _, _ => False

/-- The parts of a state that change. -/
inductive Place where
  | register (index : Nat)
  | binding (name : String)
deriving DecidableEq, Repr

namespace Instruction

/-- The place that an instruction writes to, if there is one. -/
def target? : Instruction → Option Place
  | .load register _ => some (.register register)
  | .select target _ _ _ => some (.binding target)
  | _ => none

/-- The register that an instruction selects from, if there is one. -/
def source? : Instruction → Option Nat
  | .select _ register _ _ => some register
  | _ => none

/-- Two instructions do not conflict exactly if they write to different places and neither writes to
    the register that the other selects from. -/
theorem not_conflicts_iff (i j : Instruction) :
    ¬ i.Conflicts j ↔
      (∀ place ∈ i.target?, place ∉ j.target?) ∧
      (∀ register ∈ j.source?, Place.register register ∉ i.target?) ∧
      ∀ register ∈ i.source?, Place.register register ∉ j.target? := by
  cases i <;> cases j <;> simp [Conflicts, target?, source?, eq_comm]

end Instruction

/-! ### Changes -/

/-- What an instruction that succeeds changes. -/
inductive Change where
  | nothing
  | fill (register : Nat) (m : FloatMatrix)
  | assign (name : String) (value : Value)

/-- The place that a change writes to, if there is one. -/
def Change.place? : Change → Option Place
  | .nothing => none
  | .fill register _ => some (.register register)
  | .assign name _ => some (.binding name)

namespace State

/-- The state with a change made. -/
def changed (s : State) : Change → State
  | .nothing => s
  | .fill register m => s.filled register m
  | .assign name value => s.setVariable name value

theorem filled_comm (s : State) {first second : Nat} (apart : first ≠ second)
    (m n : FloatMatrix) :
    (s.filled first m).filled second n = (s.filled second n).filled first m := by
  simp only [filled]
  rw [Array.setIfInBounds_comm _ _ apart]

theorem setVariable_comm (s : State) {first second : String} (apart : first ≠ second)
    (value other : Value) :
    (s.setVariable first value).setVariable second other =
      (s.setVariable second other).setVariable first value := by
  have same : (s.environment.set first value).set second other =
      (s.environment.set second other).set first value := by
    apply Variables.ext_of_get?
    intro name
    simp only [Variables.get?_set]
    by_cases isSecond : name = second
    · rw [if_pos isSecond, if_neg fun isFirst => apart (isFirst.symm.trans isSecond),
        if_pos isSecond]
    · rw [if_neg isSecond, if_neg isSecond]
  simp only [setVariable, same]

/-- Changes of different places can be made in either order. -/
theorem changed_comm (s : State) {a b : Change} (apart : ∀ place ∈ a.place?, place ∉ b.place?) :
    (s.changed a).changed b = (s.changed b).changed a := by
  cases a with
  | nothing => rfl
  | fill register m =>
      cases b with
      | nothing => rfl
      | fill other n =>
          apply s.filled_comm
          intro same
          exact apart (.register register) rfl (by simp [Change.place?, same])
      | assign name value => rfl
  | assign name value =>
      cases b with
      | nothing => rfl
      | fill register m => rfl
      | assign other held =>
          apply s.setVariable_comm
          intro same
          exact apart (.binding name) rfl (by simp [Change.place?, same])

/-! ### Verdicts -/

/-- A state looks to an instruction like another one: it has registers of the same side and as many
    of them, and the register that the instruction selects from has the same content. -/
structure LooksAlike (i : Instruction) (s t : State) : Prop where
  side_eq : t.side = s.side
  size_eq : t.registers.size = s.registers.size
  content_eq : ∀ register ∈ i.source?, t.registers[register]? = s.registers[register]?

theorem LooksAlike.refl (i : Instruction) (s : State) : LooksAlike i s s :=
  ⟨rfl, rfl, fun _ _ => rfl⟩

/-- A change of another register, or of a variable, cannot be seen. -/
theorem looksAlike_changed {i : Instruction} {change : Change} (s : State)
    (apart : ∀ register ∈ i.source?, Place.register register ∉ change.place?) :
    LooksAlike i s (s.changed change) := by
  cases change with
  | nothing => exact .refl i s
  | assign name value => exact ⟨rfl, rfl, fun _ _ => rfl⟩
  | fill filled m =>
      refine ⟨rfl, Array.size_setIfInBounds, fun register member => ?_⟩
      have other : filled ≠ register := by
        intro same
        exact apart register member (by simp [Change.place?, same])
      exact Array.getElem?_setIfInBounds_ne other

theorem exists_verdict_select (trace : Bool) (target : String) (register start count : Nat)
    (s : State) :
    ∃ verdict : Except MachineFailure Change,
      (∀ change, verdict = .ok change → change.place? = some (.binding target)) ∧
      ∀ t, LooksAlike (.select target register start count) s t →
        t.carryOut trace (.select target register start count) = verdict.map t.changed := by
  cases held : s.registers[register]? with
  | none =>
      refine ⟨.error (.noSuchRegister register s.registers.size), fun _ => by simp,
        fun t alike => ?_⟩
      have missing : t.registers.size ≤ register :=
        alike.size_eq ▸ Array.getElem?_eq_none_iff.mp held
      rw [carryOut_select_of_missing missing, alike.size_eq]
      rfl
  | some content =>
      have found : ∀ t, LooksAlike (.select target register start count) s t →
          t.register register = .ok content ∧ t.registerSize = s.registerSize := by
        intro t alike
        have same := (alike.content_eq register rfl).trans held
        exact ⟨by rw [State.register, same], by rw [registerSize, alike.side_eq, registerSize]⟩
      by_cases inside : 0 < count ∧ start + count ≤ s.registerSize
      · cases content with
        | none =>
            refine ⟨.error (.uninitialized register), fun _ => by simp, fun t alike => ?_⟩
            obtain ⟨empty, size⟩ := found t alike
            exact carryOut_select_of_empty empty (size ▸ inside) trace target
        | some m =>
            by_cases enough : start + count ≤ m.cells.size
            · obtain ⟨row, made, -, -⟩ := exists_row m.cells inside.1 enough
              refine ⟨.ok (.assign target (.matrix row)), by simp [Change.place?],
                fun t alike => ?_⟩
              obtain ⟨filled, size⟩ := found t alike
              exact carryOut_select_of_row filled (size ▸ inside) enough made trace target
            · refine ⟨.error (.cellsMissing register (start + count) m.cells.size),
                fun _ => by simp, fun t alike => ?_⟩
              obtain ⟨filled, size⟩ := found t alike
              exact carryOut_select_of_overrun filled (size ▸ inside) (Nat.lt_of_not_le enough)
                trace target
      · refine ⟨.error (.selectionOutside register start count s.registerSize), fun _ => by simp,
          fun t alike => ?_⟩
        obtain ⟨filled, size⟩ := found t alike
        rw [carryOut_select_of_outside filled (size ▸ inside), size]
        rfl

/-- Whether an instruction can be carried out, and what it then changes, is the same for all states
    that look alike to it, and it changes only the place that it writes to. -/
theorem exists_verdict (trace : Bool) (i : Instruction) (s : State) :
    ∃ verdict : Except MachineFailure Change,
      (∀ change, verdict = .ok change → change.place? = i.target?) ∧
      ∀ t, LooksAlike i s t → t.carryOut trace i = verdict.map t.changed := by
  cases i with
  | load register bits =>
      cases made : Handler.loadedMatrix s.side bits with
      | error failure =>
          refine ⟨.error failure, fun _ => by simp, fun t alike => ?_⟩
          exact carryOut_load_of_error bits (alike.side_eq ▸ made) trace register
      | ok m =>
          by_cases inside : register < s.registers.size
          · refine ⟨.ok (.fill register m), by simp [Change.place?, Instruction.target?],
              fun t alike => ?_⟩
            rw [carryOut_load bits (alike.side_eq ▸ made), load, alike.size_eq, if_pos inside]
            rfl
          · refine ⟨.error (.noSuchRegister register s.registers.size), fun _ => by simp,
              fun t alike => ?_⟩
            rw [carryOut_load bits (alike.side_eq ▸ made), load, alike.size_eq, if_neg inside]
            rfl
  | select target register start count =>
      exact s.exists_verdict_select trace target register start count
  | apply | concat | tensor | measure | inverse =>
      cases trace with
      | false => exact ⟨.error (.noHandler _), fun _ => by simp, fun _ _ => rfl⟩
      | true => exact ⟨.ok .nothing, by simp [Change.place?, Instruction.target?], fun _ _ => rfl⟩

/-- The state after a verdict: what it changes is changed, unless it is a failure. -/
def settled (s : State) (verdict : Except MachineFailure Change) : State :=
  s.afterAttempt (verdict.map s.changed)

/-- What cannot be seen of a change cannot be seen of a verdict either. -/
theorem looksAlike_settled {i j : Instruction} {verdict : Except MachineFailure Change} (s : State)
    (writes : ∀ change, verdict = .ok change → change.place? = j.target?)
    (apart : ∀ register ∈ i.source?, Place.register register ∉ j.target?) :
    LooksAlike i s (s.settled verdict) := by
  cases verdict with
  | error failure => exact .refl i s
  | ok change =>
      apply s.looksAlike_changed
      rw [writes change rfl]
      exact apart

/-- Verdicts that change different places can be carried out in either order. -/
theorem settled_comm {i j : Instruction} {verdict other : Except MachineFailure Change} (s : State)
    (writes : ∀ change, verdict = .ok change → change.place? = i.target?)
    (writesOther : ∀ change, other = .ok change → change.place? = j.target?)
    (apart : ∀ place ∈ i.target?, place ∉ j.target?) :
    (s.settled verdict).settled other = (s.settled other).settled verdict := by
  cases verdict with
  | error failure => rfl
  | ok change =>
      cases other with
      | error failure => rfl
      | ok second =>
          apply s.changed_comm
          rw [writes change rfl, writesOther second rfl]
          exact apart

end State

namespace Computer

variable {side count : Nat} {trace : Bool} {c : Computer}

/-- Instructions that do not conflict can be executed in either order on a reachable computer. The
    computer ends up the same, and each of them succeeds, or fails for the same cause, as it does in
    the other order. -/
theorem independent_instructions_commute (reached : Reachable side count trace c)
    {i j : Instruction} (independent : ¬ i.Conflicts j) :
    ((c.execute i).computer.execute j).computer = ((c.execute j).computer.execute i).computer ∧
    ((c.execute j).computer.execute i).outcome = (c.execute i).outcome ∧
    ((c.execute i).computer.execute j).outcome = (c.execute j).outcome := by
  have standard := reached.isStandard
  obtain ⟨targets, sourceOfSecond, sourceOfFirst⟩ := (i.not_conflicts_iff j).mp independent
  obtain ⟨verdict, writes, carries⟩ := c.state.exists_verdict trace i
  obtain ⟨other, writesOther, carriesOther⟩ := c.state.exists_verdict trace j
  have first : (c.execute i).computer = { c with state := c.state.settled verdict } := by
    rw [standard.execute_computer, carries _ (.refl i _)]
    rfl
  have second : (c.execute j).computer = { c with state := c.state.settled other } := by
    rw [standard.execute_computer, carriesOther _ (.refl j _)]
    rfl
  -- Neither instruction sees what the other one has changed.
  have unseenByFirst := carries _ (c.state.looksAlike_settled writesOther sourceOfFirst)
  have unseenBySecond := carriesOther _ (c.state.looksAlike_settled writes sourceOfSecond)
  refine ⟨?_, ?_, ?_⟩
  · rw [(standard.execute i).execute_computer, (standard.execute j).execute_computer, first, second,
      unseenByFirst, unseenBySecond]
    exact congrArg (fun state => { c with state := state })
      (c.state.settled_comm writes writesOther targets)
  · rw [(standard.execute j).execute_outcome, standard.execute_outcome, second, unseenByFirst,
      carries _ (.refl i _)]
    cases verdict <;> rfl
  · rw [(standard.execute i).execute_outcome, standard.execute_outcome, first, unseenBySecond,
      carriesOther _ (.refl j _)]
    cases other <;> rfl

/-- On two registers of which the first is filled, selecting from it and filling the other one can
    change places. -/
theorem independent_instructions_commute_select :
    let c : Computer := (execute ⟨.fresh 2 2, .standard false⟩ (.load 0 (some "0110"))).computer
    Reachable 2 2 false c ∧
      ¬ (Instruction.select "v" 0 1 2).Conflicts (.load 1 (some "1000")) ∧
      ((c.execute (.select "v" 0 1 2)).computer.execute (.load 1 (some "1000"))).computer =
        ((c.execute (.load 1 (some "1000"))).computer.execute (.select "v" 0 1 2)).computer := by
  intro c
  have reached : Reachable 2 2 false c :=
    .execute (.start (standard_eq_ok (by decide) 2 false)) _
  have independent : ¬ (Instruction.select "v" 0 1 2).Conflicts (.load 1 (some "1000")) := by
    simp [Instruction.Conflicts]
  exact ⟨reached, independent, (independent_instructions_commute reached independent).1⟩

/-- Filling a register and selecting from it cannot change places. -/
example :
    let c : Computer := ⟨.fresh 2 1, .standard false⟩
    (c.execute (.select "v" 0 1 2)).outcome = .error (.uninitialized 0) ∧
      ((c.execute (.load 0 none)).computer.execute (.select "v" 0 1 2)).outcome = .ok () :=
  ⟨rfl, rfl⟩

end Computer

end QuantumAssembler
