import QuantumAssembler.Proofs.Machine.Dispatch

/-!
Module: QuantumAssembler.Proofs.Machine.Calls
Purpose: How often an instruction reaches a handler. The calls of an execution are listed with the
  states on which they are made; the list is cut where a call fails. A handler is called at all if it
  declares the kind of the instruction and no handler in front of it fails. It is called a second
  time exactly if it declares the kind more than once and its first call succeeds, so handlers that
  declare a set of kinds are called once at most.
Main exports: Table.callsMade, Table.callsMade_append, Reaction.ComesFrom, Handler.timesCalled,
  Computer.callsMade, Computer.handler_called_again_iff
-/

namespace QuantumAssembler

/-! ### The calls of a run through handlers -/

/-- What a reaction has to do with calls: it has their events in order, and it ends as the last of
    them ends. -/
structure Reaction.ComesFrom (r : Reaction) (i : Instruction) (s : State)
    (calls : List (Handler × State)) : Prop where
  events : r.events = calls.flatMap fun call => call.1.callEvents i call.2
  state : r.state = (calls.getLast?.map fun call => (call.1.react i call.2).state).getD s
  outcome : ∀ call ∈ calls.getLast?, r.outcome = (call.1.react i call.2).outcome

namespace Table

/-- The calls that running through handlers makes, each with the state that its handler finds. The
    first that fails is the last. -/
def callsMade (i : Instruction) : List Handler → State → List (Handler × State)
  | [], _ => []
  | h :: rest, s =>
    (h, s) ::
      match (h.react i s).outcome with
      | .error _ => []
      | .ok () => callsMade i rest (h.react i s).state

section Calls

variable {i : Instruction} {h : Handler} {s : State}

theorem callsMade_of_error {failure : MachineFailure}
    (failed : (h.react i s).outcome = .error failure) (rest : List Handler) :
    callsMade i (h :: rest) s = [(h, s)] := by
  rw [callsMade, failed]

theorem callsMade_of_ok (succeeded : (h.react i s).outcome = .ok ()) (rest : List Handler) :
    callsMade i (h :: rest) s = (h, s) :: callsMade i rest (h.react i s).state := by
  rw [callsMade, succeeded]

/-- A run is made up of its calls. -/
theorem comesFrom_callsMade (i : Instruction) (due : List Handler) (s : State) :
    (run i due s).ComesFrom i s (callsMade i due s) := by
  induction due generalizing s with
  | nil => exact ⟨rfl, rfl, by simp [callsMade]⟩
  | cons h rest ih =>
      cases outcome : (h.react i s).outcome with
      | error failure =>
          rw [run_of_error outcome, callsMade_of_error outcome]
          exact ⟨by simp, rfl, by simp [outcome]⟩
      | ok =>
          obtain ⟨events, state, last⟩ := ih (h.react i s).state
          rw [run_of_ok outcome, callsMade_of_ok outcome]
          refine ⟨by rw [events, List.flatMap_cons], ?_, ?_⟩
          · rw [state]
            cases callsMade i rest (h.react i s).state <;> rfl
          · cases others : callsMade i rest (h.react i s).state with
            | nil =>
                -- Nothing is called behind this handler, so nothing is left that could fail.
                cases rest with
                | nil => simp [run, Reaction.ofOutcome, outcome]
                | cons next rest => simp [callsMade] at others
            | cons next behind =>
                rw [others] at last
                simpa using last

/-- Handlers behind others are called if all calls to these succeed, on the state that they leave. -/
theorem callsMade_append (i : Instruction) (first second : List Handler) (s : State) :
    callsMade i (first ++ second) s = callsMade i first s ++
      match (run i first s).outcome with
      | .error _ => []
      | .ok () => callsMade i second (run i first s).state := by
  induction first generalizing s with
  | nil => rfl
  | cons h rest ih =>
      cases outcome : (h.react i s).outcome with
      | error failure =>
          rw [List.cons_append, callsMade_of_error outcome, callsMade_of_error outcome,
            run_of_error outcome]
          rfl
      | ok =>
          rw [List.cons_append, callsMade_of_ok outcome, callsMade_of_ok outcome,
            run_of_ok outcome, ih]
          rfl

/-- Only handlers that are due are called, none of them beyond its turns. -/
theorem handlers_callsMade_isPrefix (i : Instruction) (due : List Handler) (s : State) :
    (callsMade i due s).map Prod.fst <+: due := by
  induction due generalizing s with
  | nil => exact List.prefix_rfl
  | cons h rest ih =>
      cases outcome : (h.react i s).outcome with
      | error failure =>
          rw [callsMade_of_error outcome]
          exact ⟨rest, rfl⟩
      | ok =>
          rw [callsMade_of_ok outcome, List.map_cons]
          exact (List.prefix_cons_inj h).mpr (ih (h.react i s).state)

/-- Of several turns of one handler, the second is taken exactly if the first succeeds. -/
theorem length_callsMade_replicate (i : Instruction) (h : Handler) (turns : Nat) (s : State) :
    (callsMade i (List.replicate turns h) s).length ≤ turns ∧
      (0 < (callsMade i (List.replicate turns h) s).length ↔ 0 < turns) ∧
      (1 < (callsMade i (List.replicate turns h) s).length ↔
        1 < turns ∧ (h.react i s).outcome = .ok ()) := by
  have bound := (handlers_callsMade_isPrefix i (List.replicate turns h) s).length_le
  rw [List.length_map, List.length_replicate] at bound
  refine ⟨bound, ?_⟩
  cases turns with
  | zero => simp [callsMade]
  | succ others =>
      rw [List.replicate_succ]
      cases outcome : (h.react i s).outcome with
      | error failure => simp [callsMade_of_error outcome]
      | ok =>
          rw [callsMade_of_ok outcome]
          cases others with
          | zero => simp [callsMade]
          | succ others => simp [List.replicate_succ, callsMade]

end Calls

end Table

/-! ### Counting the calls to one handler -/

/-- How many of the calls go to the handler. -/
def Handler.timesCalled (h : Handler) (calls : List (Handler × State)) : Nat :=
  calls.countP fun call => call.1.identity == h.identity

namespace Handler

variable {h : Handler}

theorem timesCalled_append (first second : List (Handler × State)) :
    h.timesCalled (first ++ second) = h.timesCalled first + h.timesCalled second :=
  List.countP_append

/-- Calls that are due to other handlers are none to this one. -/
theorem timesCalled_eq_zero {due : List Handler}
    (others : ∀ other ∈ due, other.identity ≠ h.identity) (i : Instruction) (s : State) :
    h.timesCalled (Table.callsMade i due s) = 0 := by
  apply List.countP_eq_zero.mpr
  intro call member
  have held : call.1 ∈ due :=
    (Table.handlers_callsMade_isPrefix i due s).subset (List.mem_map_of_mem member)
  simpa using others call.1 held

/-- All calls that are due to this handler alone go to it. -/
theorem timesCalled_replicate (i : Instruction) (h : Handler) (turns : Nat) (s : State) :
    h.timesCalled (Table.callsMade i (List.replicate turns h) s) =
      (Table.callsMade i (List.replicate turns h) s).length := by
  apply List.countP_eq_length.mpr
  intro call member
  have held : call.1 ∈ List.replicate turns h :=
    (Table.handlers_callsMade_isPrefix i _ s).subset (List.mem_map_of_mem member)
  simp [(List.mem_replicate.mp held).2]

end Handler

/-- The calls that are due come from handlers of the list. -/
theorem mem_of_mem_callsFor {kind : InstructionKind} {handlers : List Handler} {h : Handler}
    (due : h ∈ callsFor kind handlers) : h ∈ handlers := by
  obtain ⟨other, member, turn⟩ := List.mem_flatMap.mp due
  rwa [(List.mem_replicate.mp turn).2]

/-- A handler that occurs once has its turns behind those of the handlers in front of it and in front
    of those of the handlers behind it. -/
theorem callsFor_append_cons (kind : InstructionKind) (front : List Handler) (h : Handler)
    (behind : List Handler) :
    callsFor kind (front ++ h :: behind) =
      callsFor kind front ++ (List.replicate (h.kinds.count kind) h ++ callsFor kind behind) := by
  rw [callsFor, List.flatMap_append, List.flatMap_cons]
  rfl

theorem Distinct.apart {front behind : List Handler} {h : Handler}
    (distinct : Distinct (front ++ h :: behind)) :
    (∀ other ∈ front, other.identity ≠ h.identity) ∧
      ∀ other ∈ behind, other.identity ≠ h.identity := by
  rw [Distinct, List.map_append, List.map_cons, List.nodup_append, List.nodup_cons] at distinct
  obtain ⟨-, ⟨new, -⟩, apart⟩ := distinct
  constructor
  · intro other member
    exact apart _ (List.mem_map_of_mem member) _ List.mem_cons_self
  · intro other member same
    exact new (same ▸ List.mem_map_of_mem member)

namespace Computer

/-- The calls that executing an instruction makes. -/
def callsMade (c : Computer) (i : Instruction) : List (Handler × State) :=
  Table.callsMade i (c.table.queue i.kind) c.state

/-- An execution is made up of its calls. Without any, nothing is handled. -/
theorem execute_comesFrom (c : Computer) (i : Instruction) :
    (c.table.dispatch i c.state).ComesFrom i c.state (c.callsMade i) := by
  rw [callsMade, Table.dispatch]
  split
  · rename_i none
    rw [none]
    exact ⟨rfl, rfl, by simp [Table.callsMade]⟩
  · exact Table.comesFrom_callsMade i _ c.state

/-- The calls to a handler are those of its turns, if the calls to the handlers in front of it
    succeed. -/
theorem timesCalled_eq {t : Table} {front behind : List Handler} {h : Handler}
    (lists : t.Lists (front ++ h :: behind)) (distinct : Distinct (front ++ h :: behind))
    (s : State) (i : Instruction) :
    h.timesCalled (callsMade ⟨s, t⟩ i) =
      match (Table.run i (callsFor i.kind front) s).outcome with
      | .error _ => 0
      | .ok () =>
        (Table.callsMade i (List.replicate (h.kinds.count i.kind) h)
          (Table.run i (callsFor i.kind front) s).state).length := by
  obtain ⟨apartFront, apartBehind⟩ := distinct.apart
  have noneOf : ∀ others : List Handler, (∀ other ∈ others, other.identity ≠ h.identity) →
      ∀ s, h.timesCalled (Table.callsMade i (callsFor i.kind others) s) = 0 := by
    intro others apart s
    apply Handler.timesCalled_eq_zero
    intro other due
    exact apart other (mem_of_mem_callsFor due)
  rw [callsMade, lists.queue, callsFor_append_cons, Table.callsMade_append,
    Handler.timesCalled_append, noneOf front apartFront, Nat.zero_add]
  cases (Table.run i (callsFor i.kind front) s).outcome with
  | error failure => rfl
  | ok =>
      simp only
      rw [Table.callsMade_append, Handler.timesCalled_append, Handler.timesCalled_replicate]
      apply Nat.add_eq_left.mpr
      split
      · rfl
      · exact noneOf behind apartBehind _

/-- Only with registers that have a side is a computer built. -/
theorem side_pos_of_build {handlers : List Handler} {side count : Nat} {c : Computer}
    (built : build handlers side count = .ok c) : 0 < side := by
  cases side with
  | zero => simp [build] at built
  | succ rows => exact Nat.succ_pos rows

/-- Whatever the handlers do, an instruction reaches a handler exactly if the handler declares the
    kind of the instruction and no handler registered in front of it fails. It reaches it again
    exactly if, moreover, the handler declares the kind more than once and its first call succeeds.
    In no case does it reach it more often than the kind is declared. -/
theorem handler_called_again_iff {handlers : List Handler} {side count : Nat} {c : Computer}
    (built : build handlers side count = .ok c) (s : State) (i : Instruction) :
    (c.table.dispatch i s).ComesFrom i s (callsMade ⟨s, c.table⟩ i) ∧
      ∀ front h behind, handlers = front ++ h :: behind →
        let inFront := Table.run i (callsFor i.kind front) s
        let times := h.timesCalled (callsMade ⟨s, c.table⟩ i)
        (0 < times ↔ i.kind ∈ h.kinds ∧ inFront.outcome = .ok ()) ∧
        (1 < times ↔ 1 < h.kinds.count i.kind ∧ inFront.outcome = .ok () ∧
          (h.react i inFront.state).outcome = .ok ()) ∧
        times ≤ h.kinds.count i.kind := by
  refine ⟨execute_comesFrom ⟨s, c.table⟩ i, ?_⟩
  intro front h behind place
  subst place
  obtain ⟨-, lists, distinct⟩ := build_eq_ok (side_pos_of_build built) built
  have counted := timesCalled_eq lists distinct s i
  simp only [counted]
  cases (Table.run i (callsFor i.kind front) s).outcome with
  | error failure => simp
  | ok =>
      obtain ⟨bound, first, second⟩ := Table.length_callsMade_replicate i h
        (h.kinds.count i.kind) (Table.run i (callsFor i.kind front) s).state
      refine ⟨?_, ?_, bound⟩
      · rw [first, List.count_pos_iff]
        simp
      · rw [second]
        simp

/-- A handler that asks for each measurement twice and is called twice, unless the first call fails.
    What stands behind it is then not called. -/
theorem handler_called_again_iff_measuring :
    ∃ c, build [.tracing 0, measuringOnce 1, .tracing 2] 1 1 = .ok c ∧
      1 < (measuringOnce 1).timesCalled (callsMade ⟨.fresh 1 1, c.table⟩ (.measure 0 "x")) ∧
      ¬ 1 < (measuringOnce 1).timesCalled
        (callsMade ⟨(State.fresh 1 1).setVariable "first" (.scalar 0), c.table⟩ (.measure 0 "x")) ∧
      ¬ 0 < (Handler.tracing 2).timesCalled
        (callsMade ⟨.fresh 1 1, c.table⟩ (.measure 0 "x")) := by
  obtain ⟨c, built⟩ : ∃ c, build [.tracing 0, measuringOnce 1, .tracing 2] 1 1 = .ok c := ⟨_, rfl⟩
  have reaches := fun s => (handler_called_again_iff built s (.measure 0 "x")).2
  refine ⟨c, built, ?_, ?_, ?_⟩
  · obtain ⟨-, again, -⟩ := reaches (.fresh 1 1) [.tracing 0] (measuringOnce 1) [.tracing 2] rfl
    exact again.mpr ⟨by decide, rfl, rfl⟩
  · obtain ⟨-, again, -⟩ := reaches ((State.fresh 1 1).setVariable "first" (.scalar 0))
      [.tracing 0] (measuringOnce 1) [.tracing 2] rfl
    intro twice
    obtain ⟨-, -, succeeded⟩ := again.mp twice
    cases succeeded
  · obtain ⟨called, -, -⟩ := reaches (.fresh 1 1) [.tracing 0, measuringOnce 1] (.tracing 2) [] rfl
    intro reached
    obtain ⟨-, succeeded⟩ := called.mp reached
    cases succeeded

/-- A handler that only takes note of measurements, and declares them twice. -/
def notingTwice (identity : Nat) : Handler where
  identity := identity
  name := "NotingTwice"
  kinds := [.measure, .measure]
  react _ s := ⟨s, [], .ok ()⟩

/-- A computer is built with such a handler, and one measurement is passed to it twice. -/
theorem handler_called_twice :
    ∃ c, build [notingTwice 0] 1 1 = .ok c ∧
      (notingTwice 0).timesCalled (c.callsMade (.measure 0 "x")) = 2 ∧
      (c.execute (.measure 0 "x")).events =
        [.handlerCalled 0 "NotingTwice" (.measure 0 "x"),
          .handlerCalled 0 "NotingTwice" (.measure 0 "x")] :=
  ⟨_, rfl, rfl, rfl⟩

end Computer

end QuantumAssembler
