import QuantumAssembler.Proofs.Machine.Dispatch
import QuantumAssembler.Proofs.Machine.RegisterShape
import QuantumAssembler.Proofs.Machine.Variables

/-!
Module: QuantumAssembler.Proofs.Machine.Copies
Purpose: Computers with any number of built-in handlers, several of one class among them. Carrying out
  an instruction a second time on the state that it left succeeds and changes nothing, and tracing
  changes nothing at all. So only the first of the handlers that act on an instruction counts: copies
  and the order of the handlers make no difference, and an instruction that fails leaves the computer
  as it was.
Main exports: Steady, Table.hasEffect_run_of_steady, State.steady_carryOut, BuiltIn.object,
  BuiltIn.objects, State.attempt, Table.Lists.hasEffect_dispatch,
  Computer.objects_agree_of_same_classes
-/

namespace QuantumAssembler

/-! ### Attempts that may be repeated -/

/-- Once an attempt has succeeded, repeating it succeeds and changes nothing. -/
def Steady (f : State → Except MachineFailure State) : Prop :=
  ∀ s after, f s = .ok after → f after = .ok after

namespace Table

variable {i : Instruction} {due : List Handler} {s : State}

/-- Handlers that succeed on a state and leave it alone do so one after the other. -/
theorem hasEffect_run_of_settled (settled : ∀ h ∈ due, (h.react i s).HasEffect s (.ok s)) :
    (run i due s).HasEffect s (.ok s) := by
  induction due with
  | nil => exact ⟨rfl, rfl⟩
  | cons h rest ih =>
      obtain ⟨state, outcome⟩ := settled h List.mem_cons_self
      have same : (h.react i s).state = s := state
      rw [run_of_ok outcome, same]
      exact ih fun other member => settled other (List.mem_cons_of_mem h member)

/-- If each handler either changes nothing or makes a steady attempt, and some handler makes it, then
    all of them together make it once. -/
theorem hasEffect_run_of_steady {f : State → Except MachineFailure State} (steady : Steady f)
    (each : ∀ h ∈ due, (∀ s, (h.react i s).HasEffect s (.ok s)) ∨
      ∀ s, (h.react i s).HasEffect s (f s))
    (some : ∃ h ∈ due, ∀ s, (h.react i s).HasEffect s (f s)) :
    (run i due s).HasEffect s (f s) := by
  induction due with
  | nil =>
      obtain ⟨h, member, -⟩ := some
      cases member
  | cons h rest ih =>
      have eachRest := fun other member => each other (List.mem_cons_of_mem h member)
      by_cases acts : ∀ s, (h.react i s).HasEffect s (f s)
      · obtain ⟨state, outcome⟩ := acts s
        cases attempt : f s with
        | error failure =>
            rw [attempt] at state outcome
            rw [run_of_error outcome]
            exact ⟨state, rfl⟩
        | ok after =>
            rw [attempt] at state outcome
            have left : (h.react i s).state = after := state
            rw [run_of_ok outcome, left]
            -- The others find the attempt made already.
            apply hasEffect_run_of_settled (s := after)
            intro other member
            rcases eachRest other member with inert | repeats
            · exact inert after
            · have again := repeats after
              rwa [steady s after attempt] at again
      · rcases each h List.mem_cons_self with inert | other
        · obtain ⟨state, outcome⟩ := inert s
          have same : (h.react i s).state = s := state
          rw [run_of_ok outcome, same]
          apply ih eachRest
          obtain ⟨actor, member, makes⟩ := some
          rcases List.mem_cons.mp member with rfl | member
          · exact absurd makes acts
          · exact ⟨actor, member, makes⟩
        · exact absurd other acts

end Table

/-! ### Carrying out once more -/

namespace State

theorem load_eq_ok {s after : State} {register : Nat} {m : FloatMatrix}
    (loaded : s.load register m = .ok after) :
    register < s.registers.size ∧ after = s.filled register m := by
  unfold load at loaded
  split at loaded
  · rename_i inside
    cases loaded
    exact ⟨inside, rfl⟩
  · cases loaded

/-- Loading the same matrix again changes nothing. -/
theorem load_filled {s : State} {register : Nat} (inside : register < s.registers.size)
    (m : FloatMatrix) : (s.filled register m).load register m = .ok (s.filled register m) := by
  have stillInside : register < (s.filled register m).registers.size := by
    rw [filled, Array.size_setIfInBounds]
    exact inside
  rw [load, if_pos stillInside]
  simp [filled]

theorem setVariable_setVariable (s : State) (name : String) (first second : Value) :
    (s.setVariable name first).setVariable name second = s.setVariable name second := by
  simp [setVariable, Variables.set_set]

/-- A selection succeeds only with a row of cells of its register. -/
theorem carryOut_select_eq_ok {s after : State} {trace : Bool} {target : String}
    {register start count : Nat}
    (selected : s.carryOut trace (.select target register start count) = .ok after) :
    ∃ m row, s.register register = .ok (some m) ∧
      (0 < count ∧ start + count ≤ s.registerSize) ∧ start + count ≤ m.cells.size ∧
      DenseMatrix.row (m.cells.extract start (start + count)) = .ok row ∧
      after = s.setVariable target (.matrix row) := by
  cases held : s.registers[register]? with
  | none =>
      rw [carryOut_select_of_missing (Array.getElem?_eq_none_iff.mp held)] at selected
      cases selected
  | some content =>
      have found : s.register register = .ok content := by rw [State.register, held]
      by_cases inside : 0 < count ∧ start + count ≤ s.registerSize
      · cases content with
        | none =>
            rw [carryOut_select_of_empty found inside] at selected
            cases selected
        | some m =>
            by_cases enough : start + count ≤ m.cells.size
            · obtain ⟨row, made, -, -⟩ := exists_row m.cells inside.1 enough
              rw [carryOut_select_of_row found inside enough made] at selected
              cases selected
              exact ⟨m, row, found, inside, enough, made, rfl⟩
            · have few : m.cells.size < start + count := by omega
              rw [carryOut_select_of_overrun found inside few] at selected
              cases selected
      · rw [carryOut_select_of_outside found inside] at selected
        cases selected

/-- Carrying out an instruction again changes nothing. -/
theorem steady_carryOut (trace : Bool) (i : Instruction) : Steady fun s => s.carryOut trace i := by
  intro s after carried
  cases i with
  | load register bits =>
      simp only at carried ⊢
      cases made : Handler.loadedMatrix s.side bits with
      | error failure =>
          rw [carryOut_load_of_error bits made] at carried
          cases carried
      | ok m =>
          rw [carryOut_load bits made] at carried
          obtain ⟨inside, rfl⟩ := load_eq_ok carried
          have madeAgain : Handler.loadedMatrix (s.filled register m).side bits = .ok m := made
          rw [carryOut_load bits madeAgain]
          exact load_filled inside m
  | select target register start count =>
      simp only at carried ⊢
      obtain ⟨m, row, held, inside, enough, made, rfl⟩ := carryOut_select_eq_ok carried
      -- The registers are as before, so the same row is selected.
      have heldAgain : (s.setVariable target (.matrix row)).register register = .ok (some m) :=
        held
      rw [carryOut_select_of_row heldAgain inside enough made, setVariable_setVariable]
  | apply | concat | tensor | measure | inverse =>
      cases trace with
      | false => cases carried
      | true =>
          cases carried
          rfl

end State

/-! ### Objects of built-in handlers -/

namespace BuiltIn

/-- The handler of a class as an object of its own. -/
def object : BuiltIn → Nat → Handler
  | .loading => .loading
  | .selecting => .selecting
  | .tracing => .tracing

/-- The handlers that are given by their classes and identities. -/
def objects (parts : List (BuiltIn × Nat)) : List Handler :=
  parts.map fun part => part.1.object part.2

/-- The kinds that the handlers of a class declare. -/
def kinds : BuiltIn → List InstructionKind
  | .loading => [.load]
  | .selecting => [.select]
  | .tracing => InstructionKind.all

@[simp] theorem identity_object (k : BuiltIn) (identity : Nat) :
    (k.object identity).identity = identity := by
  cases k <;> rfl

@[simp] theorem kinds_object (k : BuiltIn) (identity : Nat) :
    (k.object identity).kinds = k.kinds := by
  cases k <;> rfl

/-- Objects of different identities are all registered. -/
theorem distinct_objects {parts : List (BuiltIn × Nat)} (apart : (parts.map Prod.snd).Nodup) :
    Distinct (objects parts) := by
  rw [Distinct, objects, List.map_map]
  simpa [Function.comp_def] using apart

/-- The calls that are due go to the objects whose class declares the kind. -/
theorem mem_callsFor_objects {kind : InstructionKind} {parts : List (BuiltIn × Nat)}
    {h : Handler} :
    h ∈ callsFor kind (objects parts) ↔
      ∃ part ∈ parts, kind ∈ part.1.kinds ∧ h = part.1.object part.2 := by
  simp only [callsFor, objects, List.mem_flatMap, List.mem_map, List.mem_replicate, ne_eq,
    List.count_eq_zero, Classical.not_not]
  constructor
  · rintro ⟨-, ⟨part, member, rfl⟩, declared, rfl⟩
    exact ⟨part, member, by simpa using declared, rfl⟩
  · rintro ⟨part, member, declared, rfl⟩
    exact ⟨_, ⟨part, member, rfl⟩, by simpa using declared, rfl⟩

/-- A handler that does more than trace carries out the instructions of the kinds that it declares.
    -/
theorem hasEffect_carryOut {k : BuiltIn} (acts : k ≠ .tracing) {i : Instruction}
    (declared : i.kind ∈ k.kinds) (identity : Nat) (s : State) :
    ((k.object identity).react i s).HasEffect s (s.carryOut false i) := by
  cases k with
  | tracing => exact absurd rfl acts
  | loading =>
      cases i with
      | load register bits =>
          exact Reaction.hasEffect_ofAttempt s (Handler.loadRegister register bits s)
      | select | apply | concat | tensor | measure | inverse =>
          simp [kinds, Instruction.kind] at declared
  | selecting =>
      cases i with
      | select target register start count =>
          exact Reaction.hasEffect_ofAttempt s
            (Handler.selectCells target register start count s)
      | load | apply | concat | tensor | measure | inverse =>
          simp [kinds, Instruction.kind] at declared

end BuiltIn

/-- What handlers of the given classes make of an instruction: it is carried out if one of them acts
    on its kind; else it succeeds if it is traced at least. -/
def State.attempt (classes : List BuiltIn) (s : State) (i : Instruction) :
    Except MachineFailure State :=
  if ∃ k ∈ classes, k ≠ .tracing ∧ i.kind ∈ k.kinds then s.carryOut false i
  else if .tracing ∈ classes then .ok s
  else .error (.noHandler i.kind)

/-- Only which classes are present counts. -/
theorem State.attempt_congr {classes others : List BuiltIn}
    (same : ∀ k, k ∈ classes ↔ k ∈ others) (s : State) (i : Instruction) :
    s.attempt classes i = s.attempt others i := by
  simp only [attempt, same]

/-- Whatever calls are due, each handler traces, which changes nothing, or carries out the
    instruction. -/
theorem BuiltIn.hasEffect_of_due {parts : List (BuiltIn × Nat)} {i : Instruction} {h : Handler}
    (due : h ∈ callsFor i.kind (objects parts)) :
    (∀ s, (h.react i s).HasEffect s (.ok s)) ∨
      ∀ s, (h.react i s).HasEffect s (s.carryOut false i) := by
  obtain ⟨part, -, declared, rfl⟩ := mem_callsFor_objects.mp due
  by_cases traces : part.1 = .tracing
  · rw [traces]
    exact .inl fun s => ⟨rfl, rfl⟩
  · exact .inr (hasEffect_carryOut traces declared part.2)

/-- Objects of built-in handlers together make the attempt of their classes. -/
theorem Table.Lists.hasEffect_dispatch {t : Table} {parts : List (BuiltIn × Nat)}
    (lists : t.Lists (BuiltIn.objects parts)) (i : Instruction) (s : State) :
    (t.dispatch i s).HasEffect s (s.attempt (parts.map Prod.fst) i) := by
  rw [State.attempt]
  split
  · rename_i acting
    obtain ⟨k, present, acts, declared⟩ := acting
    obtain ⟨part, member, rfl⟩ := List.mem_map.mp present
    have due := BuiltIn.mem_callsFor_objects.mpr ⟨part, member, declared, rfl⟩
    rw [lists.dispatch_eq_run (List.ne_nil_of_mem due)]
    exact hasEffect_run_of_steady (State.steady_carryOut false i)
      (fun h due => BuiltIn.hasEffect_of_due due)
      ⟨_, due, BuiltIn.hasEffect_carryOut acts declared part.2⟩
  · rename_i inactive
    have traces : ∀ part ∈ parts, i.kind ∈ part.1.kinds → part.1 = .tracing := by
      intro part member declared
      by_cases traces : part.1 = .tracing
      · exact traces
      · exact absurd ⟨part.1, List.mem_map_of_mem member, traces, declared⟩ inactive
    split
    · rename_i traced
      obtain ⟨part, member, same⟩ := List.mem_map.mp traced
      have declared : i.kind ∈ part.1.kinds := by
        rw [same]
        exact InstructionKind.mem_all i.kind
      have due := BuiltIn.mem_callsFor_objects.mpr ⟨part, member, declared, rfl⟩
      rw [lists.dispatch_eq_run (List.ne_nil_of_mem due)]
      apply hasEffect_run_of_settled
      intro h called
      obtain ⟨other, held, asked, rfl⟩ := BuiltIn.mem_callsFor_objects.mp called
      rw [traces other held asked]
      exact ⟨rfl, rfl⟩
    · rename_i untraced
      have none : callsFor i.kind (BuiltIn.objects parts) = [] := by
        apply List.eq_nil_iff_forall_not_mem.mpr
        intro h due
        obtain ⟨part, member, declared, -⟩ := BuiltIn.mem_callsFor_objects.mp due
        exact untraced (traces part member declared ▸ List.mem_map_of_mem member)
      rw [lists.dispatch_of_callsFor_eq_nil none]
      exact ⟨rfl, rfl⟩

/-- What an execution comes to: the state afterwards, and success or the cause of failure. -/
def Execution.result (e : Execution) : State × Except MachineFailure Unit :=
  (e.computer.state, e.outcome)

namespace Computer

/-- An execution comes to what the attempt of the classes comes to. -/
theorem result_execute_objects {t : Table} {parts : List (BuiltIn × Nat)}
    (lists : t.Lists (BuiltIn.objects parts)) (s : State) (i : Instruction) :
    (execute ⟨s, t⟩ i).result =
      (s.afterAttempt (s.attempt (parts.map Prod.fst) i),
        (s.attempt (parts.map Prod.fst) i).map fun _ => ()) := by
  obtain ⟨state, outcome⟩ := lists.hasEffect_dispatch i s
  exact Prod.ext state outcome

/-- Handlers that agree on each instruction agree on a whole series. -/
theorem executions_agree {t u : Table}
    (agree : ∀ s i, (execute ⟨s, u⟩ i).result = (execute ⟨s, t⟩ i).result)
    (instructions : List Instruction) (s : State) :
    ((executions ⟨s, u⟩ instructions).map Execution.result) =
      (executions ⟨s, t⟩ instructions).map Execution.result := by
  induction instructions generalizing s with
  | nil => rfl
  | cons i rest ih =>
      have next : (u.dispatch i s).state = (t.dispatch i s).state :=
        congrArg Prod.fst (agree s i)
      rw [executions, executions, List.map_cons, List.map_cons, agree s i]
      congr 1
      rw [execute, execute, next]
      exact ih (t.dispatch i s).state

/-- Take any objects of the built-in classes, and any others of the same classes, one of each for
    instance. A computer is built of either. In every state every instruction succeeds on both or
    fails on both for the same cause, and leaves both in the same state; if it fails, in the state
    that it found. So the two never differ, whatever they execute. -/
theorem objects_agree_of_same_classes {many single : List (BuiltIn × Nat)}
    (apart : (many.map Prod.snd).Nodup) (apartSingle : (single.map Prod.snd).Nodup)
    (same : ∀ k, k ∈ single.map Prod.fst ↔ k ∈ many.map Prod.fst)
    {side : Nat} (positive : 0 < side) (count : Nat) :
    ∃ c d, build (BuiltIn.objects many) side count = .ok c ∧
      build (BuiltIn.objects single) side count = .ok d ∧
      (∀ s i, (∀ failure, (execute ⟨s, c.table⟩ i).outcome = .error failure →
          (execute ⟨s, c.table⟩ i).computer = ⟨s, c.table⟩) ∧
        (execute ⟨s, d.table⟩ i).result = (execute ⟨s, c.table⟩ i).result) ∧
      ∀ instructions, (d.executions instructions).map Execution.result =
        (c.executions instructions).map Execution.result := by
  obtain ⟨t, registered, lists⟩ := Table.ofHandlers_of_distinct (BuiltIn.distinct_objects apart)
  obtain ⟨u, registeredSingle, listsSingle⟩ :=
    Table.ofHandlers_of_distinct (BuiltIn.distinct_objects apartSingle)
  have agree : ∀ s i, (execute ⟨s, u⟩ i).result = (execute ⟨s, t⟩ i).result := by
    intro s i
    rw [result_execute_objects lists, result_execute_objects listsSingle,
      State.attempt_congr same s i]
  refine ⟨⟨.fresh side count, t⟩, ⟨.fresh side count, u⟩, ?_, ?_, ?_, ?_⟩
  · rw [build_eq_ofHandlers _ positive, registered]
    rfl
  · rw [build_eq_ofHandlers _ positive, registeredSingle]
    rfl
  · intro s i
    refine ⟨?_, agree s i⟩
    intro failure failed
    obtain ⟨state, outcome⟩ := lists.hasEffect_dispatch i s
    have kept : (t.dispatch i s).state = s := by
      rw [state]
      cases attempt : s.attempt (many.map Prod.fst) i with
      | error cause => rfl
      | ok after =>
          rw [attempt] at outcome
          rw [show (t.dispatch i s).outcome = .error failure from failed] at outcome
          cases outcome
    rw [execute, kept]
  · intro instructions
    exact executions_agree agree instructions (.fresh side count)

/-- Two loading handlers, two tracing ones and one that selects are as good as one of each. -/
theorem objects_agree_of_same_classes_five :
    ∃ c d, build [.tracing 0, .loading 1, .selecting 2, .loading 3, .tracing 4] 1 2 = .ok c ∧
      build [.selecting 7, .tracing 8, .loading 9] 1 2 = .ok d ∧
      ∀ instructions, (d.executions instructions).map Execution.result =
        (c.executions instructions).map Execution.result := by
  have same : ∀ k, k ∈ [BuiltIn.selecting, .tracing, .loading] ↔
      k ∈ [BuiltIn.tracing, .loading, .selecting, .loading, .tracing] := by
    intro k
    cases k <;> simp
  obtain ⟨c, d, built, builtSingle, -, agree⟩ := @objects_agree_of_same_classes
    [(.tracing, 0), (.loading, 1), (.selecting, 2), (.loading, 3), (.tracing, 4)]
    [(.selecting, 7), (.tracing, 8), (.loading, 9)] (by decide) (by decide) same 1 (by decide) 2
  exact ⟨c, d, built, builtSingle, agree⟩

end Computer

end QuantumAssembler
