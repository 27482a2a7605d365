import QuantumAssembler.Machine.Dispatch

/-!
Module: QuantumAssembler.Proofs.Machine.Standard
Purpose: What a computer with the standard handlers makes of an instruction. `State.carryOut`
  answers the next state or the cause of failure, and never a state that is half changed;
  `IsStandard.execute_computer` and `IsStandard.execute_outcome` say that executing is carrying out.
  So an instruction that fails leaves the computer as it was.
Main exports: Table.standard, State.carryOut, Reaction.HasEffect, Computer.IsStandard,
  IsStandard.execute_computer, IsStandard.execute_outcome, Computer.Reachable, Computer.executions
-/

namespace QuantumAssembler

namespace Table

/-- The table of the standard handlers: each is queued for the kinds that it declares. -/
def standard (trace : Bool) : Table where
  registered := Computer.standardHandlers trace
  queue kind := (Computer.standardHandlers trace).filter fun h => h.kinds.contains kind

/-- Registering the standard handlers one after the other makes the standard table. -/
theorem ofHandlers_standardHandlers (trace : Bool) :
    ofHandlers (Computer.standardHandlers trace) = .ok (standard trace) := by
  cases trace with
  | false =>
      refine congrArg (fun queue => Except.ok (Table.mk _ queue)) (funext fun kind => ?_)
      cases kind <;> rfl
  | true =>
      refine congrArg (fun queue => Except.ok (Table.mk _ queue)) (funext fun kind => ?_)
      cases kind <;> rfl

end Table

/-- What carrying out an instruction makes of a state: the next state, or the cause of failure.
    Loading and selecting have a meaning; the other kinds are only traced, which needs a tracing
    handler. -/
def State.carryOut (trace : Bool) (s : State) : Instruction → Except MachineFailure State
  | .load register bits => (Handler.loadRegister register bits s).map (·.1)
  | .select target register start count =>
      (Handler.selectCells target register start count s).map (·.1)
  | other => if trace then .ok s else .error (.noHandler other.kind)

/-- The state after an attempt: the new one, or the old one if the attempt failed. -/
def State.afterAttempt (s : State) : Except MachineFailure State → State
  | .ok after => after
  | .error _ => s

namespace State

/-- Loading what was made is filling the register. -/
theorem carryOut_load {s : State} (bits : Option String) {matrix : FloatMatrix}
    (made : Handler.loadedMatrix s.side bits = .ok matrix) (trace : Bool) (register : Nat) :
    s.carryOut trace (.load register bits) = s.load register matrix := by
  simp only [carryOut, Handler.loadRegister, made, bind, Except.bind]
  cases s.load register matrix with
  | error failure => rfl
  | ok after => rfl

/-- What cannot be made is not loaded. -/
theorem carryOut_load_of_error {s : State} (bits : Option String) {failure : MachineFailure}
    (refused : Handler.loadedMatrix s.side bits = .error failure) (trace : Bool)
    (register : Nat) : s.carryOut trace (.load register bits) = .error failure := by
  simp only [carryOut, Handler.loadRegister, refused, bind, Except.bind]
  rfl

section Selecting

variable {s : State} {register start count : Nat}

/-- A selection needs a register that exists. -/
theorem carryOut_select_of_missing (missing : s.registers.size ≤ register) (trace : Bool)
    (target : String) :
    s.carryOut trace (.select target register start count) =
      .error (.noSuchRegister register s.registers.size) := by
  have none : s.registers[register]? = none := Array.getElem?_eq_none missing
  simp [carryOut, Handler.selectCells, State.register, none, bind, Except.bind, Except.map]

/-- A selection needs a range that is not empty and lies inside the register; that is judged before
    the content of the register. -/
theorem carryOut_select_of_outside {content : Option FloatMatrix}
    (held : s.register register = .ok content)
    (outside : ¬(0 < count ∧ start + count ≤ s.registerSize)) (trace : Bool) (target : String) :
    s.carryOut trace (.select target register start count) =
      .error (.selectionOutside register start count s.registerSize) := by
  simp only [carryOut, Handler.selectCells, held, bind, Except.bind]
  rw [if_pos outside]
  rfl

/-- A selection needs a register that is filled. -/
theorem carryOut_select_of_empty (held : s.register register = .ok none)
    (inside : 0 < count ∧ start + count ≤ s.registerSize) (trace : Bool) (target : String) :
    s.carryOut trace (.select target register start count) =
      .error (.uninitialized register) := by
  simp only [carryOut, Handler.selectCells, State.value, held, bind, Except.bind]
  rw [if_neg (not_not_intro inside)]
  rfl

/-- A selection sets its variable to the row of the selected cells. -/
theorem carryOut_select_of_row {matrix row : FloatMatrix}
    (held : s.register register = .ok (some matrix))
    (inside : 0 < count ∧ start + count ≤ s.registerSize)
    (enough : start + count ≤ matrix.cells.size)
    (made : DenseMatrix.row (matrix.cells.extract start (start + count)) = .ok row)
    (trace : Bool) (target : String) :
    s.carryOut trace (.select target register start count) =
      .ok (s.setVariable target (.matrix row)) := by
  simp only [carryOut, Handler.selectCells, State.value, held, bind, Except.bind]
  rw [if_neg (not_not_intro inside)]
  simp only [pure, Except.pure]
  rw [if_neg (Nat.not_lt.mpr enough), made]
  rfl

end Selecting

end State

namespace Reaction

/-- A reaction has the effect of an attempt if both succeed or fail alike, and a failed reaction
    leaves the state alone. -/
def HasEffect (r : Reaction) (s : State) (attempt : Except MachineFailure State) : Prop :=
  r.state = s.afterAttempt attempt ∧ r.outcome = attempt.map fun _ => ()

theorem hasEffect_ofAttempt (s : State) (attempt : Except MachineFailure (State × Event)) :
    (ofAttempt s attempt).HasEffect s (attempt.map (·.1)) := by
  cases attempt with
  | error failure => exact ⟨rfl, rfl⟩
  | ok result => exact ⟨rfl, rfl⟩

end Reaction

namespace Table

/-- A tracing handler in front of others changes nothing but the events. -/
theorem hasEffect_run_tracing {i : Instruction} {rest : List Handler} {s : State}
    {attempt : Except MachineFailure State} (identity : Nat)
    (effect : (run i rest s).HasEffect s attempt) :
    (run i (.tracing identity :: rest) s).HasEffect s attempt := by
  simpa [run, Handler.tracing, Reaction.HasEffect] using effect

/-- A handler called alone has the effect of its reaction. -/
theorem hasEffect_run_single (i : Instruction) (h : Handler) {s : State}
    {attempt : Except MachineFailure State} (effect : (h.react i s).HasEffect s attempt) :
    (run i [h] s).HasEffect s attempt := by
  obtain ⟨state, outcome⟩ := effect
  cases attempt with
  | error failure =>
      have failed : (h.react i s).outcome = .error failure := outcome
      simp [run, Reaction.HasEffect, failed, state, Except.map]
  | ok after =>
      have succeeded : (h.react i s).outcome = .ok () := outcome
      simp [run, Reaction.HasEffect, Reaction.ofOutcome, succeeded, state, Except.map]

/-- Dispatching on the standard table is carrying out. -/
theorem hasEffect_dispatch_standard (trace : Bool) (i : Instruction) (s : State) :
    ((standard trace).dispatch i s).HasEffect s (s.carryOut trace i) := by
  cases i with
  | load register bits =>
      have effect := hasEffect_run_single (.load register bits) (.loading 1)
        (Reaction.hasEffect_ofAttempt s (Handler.loadRegister register bits s))
      cases trace with
      | false => exact effect
      | true => exact hasEffect_run_tracing 0 effect
  | select target register start count =>
      have effect := hasEffect_run_single (.select target register start count) (.selecting 2)
        (Reaction.hasEffect_ofAttempt s (Handler.selectCells target register start count s))
      cases trace with
      | false => exact effect
      | true => exact hasEffect_run_tracing 0 effect
  | apply | concat | tensor | measure | inverse =>
      cases trace with
      | false => exact ⟨rfl, rfl⟩
      | true => exact ⟨rfl, rfl⟩

end Table

namespace Computer

/-- Whether a computer has the standard handlers. -/
def IsStandard (trace : Bool) (c : Computer) : Prop :=
  c.table = .standard trace

/-- A standard computer of a positive side starts from empty registers. -/
theorem standard_eq_ok {side : Nat} (positive : 0 < side) (count : Nat) (trace : Bool) :
    standard side count trace = .ok ⟨.fresh side count, .standard trace⟩ := by
  have nonzero : side ≠ 0 := by omega
  rw [standard, build, if_neg nonzero, Table.ofHandlers_standardHandlers]
  rfl

namespace IsStandard

variable {trace : Bool} {c : Computer}

/-- Executing an instruction is carrying it out; the handlers stay. -/
theorem execute_computer (standard : c.IsStandard trace) (i : Instruction) :
    (c.execute i).computer =
      { c with state := c.state.afterAttempt (c.state.carryOut trace i) } := by
  have effect := Table.hasEffect_dispatch_standard trace i c.state
  rw [← standard] at effect
  simp [Computer.execute, effect.1]

/-- An instruction fails for the cause for which it cannot be carried out. -/
theorem execute_outcome (standard : c.IsStandard trace) (i : Instruction) :
    (c.execute i).outcome = (c.state.carryOut trace i).map fun _ => () := by
  have effect := Table.hasEffect_dispatch_standard trace i c.state
  rw [← standard] at effect
  exact effect.2

/-- A computer keeps its standard handlers. -/
theorem execute (standard : c.IsStandard trace) (i : Instruction) :
    (c.execute i).computer.IsStandard trace := by
  rw [standard.execute_computer]
  exact standard

/-- An instruction that can be carried out succeeds, and leaves the state that it is carried out to.
    -/
theorem execute_of_carryOut (standard : c.IsStandard trace) {i : Instruction} {after : State}
    (carried : c.state.carryOut trace i = .ok after) :
    (c.execute i).computer = { c with state := after } ∧ (c.execute i).outcome = .ok () := by
  rw [standard.execute_computer, standard.execute_outcome, carried]
  exact ⟨rfl, rfl⟩

/-- An instruction that fails leaves the computer as it was. -/
theorem execute_computer_of_error (standard : c.IsStandard trace) {i : Instruction}
    {failure : MachineFailure} (failed : (c.execute i).outcome = .error failure) :
    (c.execute i).computer = c := by
  rw [standard.execute_outcome] at failed
  rw [standard.execute_computer]
  cases attempt : c.state.carryOut trace i with
  | ok after => simp [attempt, Except.map] at failed
  | error cause => rfl

end IsStandard

/-- The computers that come of a standard computer by executing instructions, whether these succeed
    or fail. -/
inductive Reachable (side count : Nat) (trace : Bool) : Computer → Prop where
  | start {c : Computer} (built : standard side count trace = .ok c) :
      Reachable side count trace c
  | execute {c : Computer} (reached : Reachable side count trace c) (i : Instruction) :
      Reachable side count trace (c.execute i).computer

/-- Every reachable computer has the standard handlers. -/
theorem Reachable.isStandard {side count : Nat} {trace : Bool} {c : Computer}
    (reached : Reachable side count trace c) : c.IsStandard trace := by
  induction reached with
  | start built =>
      cases side with
      | zero => simp [standard, build] at built
      | succ rows =>
          rw [standard_eq_ok (Nat.succ_pos rows)] at built
          cases built
          rfl
  | execute _ i inductionHypothesis => exact inductionHypothesis.execute i

/-- Executes instructions one after the other, going on after failures. -/
def executions (c : Computer) : List Instruction → List Execution
  | [] => []
  | i :: rest => c.execute i :: executions (c.execute i).computer rest

end Computer

end QuantumAssembler
