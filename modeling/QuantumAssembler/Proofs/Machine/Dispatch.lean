import QuantumAssembler.Machine.Dispatch

/-!
Module: QuantumAssembler.Proofs.Machine.Dispatch
Purpose: Which handlers a computer calls, whatever the handlers do. Registration keeps, for each kind
  of instruction, the handlers in order, each as often as it declares the kind; it is refused exactly
  for the first handler that is registered for the second time. An instruction is passed through
  these handlers, each of which goes on from the state that the one before it left, and the first
  failure ends it.
Main exports: callsFor, Distinct, IsFirstRepeat, Table.Lists, Table.ofHandlers_of_distinct,
  Table.ofHandlers_of_isFirstRepeat, CallsSucceed, CallsEnd, Table.run_eq_iff,
  Computer.build_eq_error_iff, Computer.execute_eq_iff, Computer.build_dispatches_in_order
-/

namespace QuantumAssembler

/-! ### Registration -/

/-- The calls that are due for instructions of a kind: the handlers in order, each as often as it
    declares the kind. -/
def callsFor (kind : InstructionKind) (handlers : List Handler) : List Handler :=
  handlers.flatMap fun h => List.replicate (h.kinds.count kind) h

/-- No handler occurs twice. -/
def Distinct (handlers : List Handler) : Prop :=
  (handlers.map Handler.identity).Nodup

/-- The handler `h` occurs where the same handler occurred before, and no such thing happened earlier
    in the list. -/
def IsFirstRepeat (handlers : List Handler) (h : Handler) : Prop :=
  ∃ before behind, handlers = before ++ h :: behind ∧ Distinct before ∧
    h.identity ∈ before.map Handler.identity

theorem callsFor_eq_nil_iff {kind : InstructionKind} {handlers : List Handler} :
    callsFor kind handlers = [] ↔ ∀ h ∈ handlers, kind ∉ h.kinds := by
  simp [callsFor, List.count_eq_zero]

theorem distinct_append_singleton {handlers : List Handler} {h : Handler} :
    Distinct (handlers ++ [h]) ↔
      Distinct handlers ∧ h.identity ∉ handlers.map Handler.identity := by
  rw [Distinct, List.map_append, List.nodup_append]
  constructor
  · intro all
    obtain ⟨front, -, apart⟩ := all
    exact ⟨front, fun known => apart _ known _ (List.mem_singleton.mpr rfl) rfl⟩
  · intro parts
    obtain ⟨front, new⟩ := parts
    refine ⟨front, by simp, fun other member last held => ?_⟩
    rw [List.map_singleton, List.mem_singleton] at held
    intro same
    exact new (held ▸ same ▸ member)

theorem Distinct.of_append {before rest : List Handler} (distinct : Distinct (before ++ rest)) :
    Distinct before := by
  rw [Distinct, List.map_append] at distinct
  exact (List.nodup_append.mp distinct).1

theorem IsFirstRepeat.not_distinct {handlers : List Handler} {h : Handler}
    (first : IsFirstRepeat handlers h) : ¬ Distinct handlers := by
  obtain ⟨before, behind, rfl, -, known⟩ := first
  intro distinct
  rw [List.append_cons] at distinct
  exact (distinct_append_singleton.mp distinct.of_append).2 known

namespace Table

/-- A table that lists the given handlers: they are registered in order, and the queue for each kind
    holds the calls that are due. -/
structure Lists (t : Table) (handlers : List Handler) : Prop where
  registered : t.registered = handlers
  queue : ∀ kind, t.queue kind = callsFor kind handlers

theorem lists_empty : empty.Lists [] :=
  ⟨rfl, fun _ => rfl⟩

/-- Queueing a handler for the kinds that it declares puts it behind the others, once for each time
    that the kind is declared. -/
theorem foldl_enqueue (h : Handler) (kinds : List InstructionKind)
    (queue : InstructionKind → List Handler) (kind : InstructionKind) :
    kinds.foldl (fun queue k => enqueue queue h k) queue kind =
      queue kind ++ List.replicate (kinds.count kind) h := by
  induction kinds generalizing queue with
  | nil => simp
  | cons k rest ih =>
      rw [List.foldl_cons, ih, enqueue]
      by_cases same : kind = k
      · rw [if_pos same, same, List.count_cons_self, List.replicate_succ,
          List.append_assoc]
        rfl
      · rw [if_neg same, List.count_cons_of_ne (Ne.symm same)]

namespace Lists

variable {t : Table} {handlers : List Handler}

/-- A handler that is new is registered behind the others. -/
theorem register (lists : t.Lists handlers) {h : Handler}
    (new : h.identity ∉ handlers.map Handler.identity) :
    ∃ larger, t.register h = .ok larger ∧ larger.Lists (handlers ++ [h]) := by
  have unknown : (t.registered.any fun other => other.identity == h.identity) = false := by
    rw [lists.registered]
    simpa using new
  refine ⟨_, by rw [Table.register, if_neg (by simp [unknown])], by rw [lists.registered], ?_⟩
  intro kind
  refine (foldl_enqueue h h.kinds t.queue kind).trans ?_
  rw [lists.queue, callsFor, callsFor, List.flatMap_append, List.flatMap_singleton]

/-- A handler that is known is refused. -/
theorem register_of_known (lists : t.Lists handlers) {h : Handler}
    (known : h.identity ∈ handlers.map Handler.identity) :
    t.register h = .error (.alreadyRegistered h.name) := by
  have found : (t.registered.any fun other => other.identity == h.identity) = true := by
    rw [lists.registered]
    simpa using known
  rw [Table.register, if_pos found]

/-- The calls that are due are made. -/
theorem dispatch_eq_run (lists : t.Lists handlers) {i : Instruction}
    (some : callsFor i.kind handlers ≠ []) (s : State) :
    t.dispatch i s = run i (callsFor i.kind handlers) s := by
  rw [dispatch, lists.queue]
  cases due : callsFor i.kind handlers with
  | nil => exact absurd due some
  | cons h rest => rfl

/-- If no call is due, the instruction is refused. -/
theorem dispatch_of_callsFor_eq_nil (lists : t.Lists handlers) {i : Instruction}
    (none : callsFor i.kind handlers = []) (s : State) :
    t.dispatch i s = .failed s (.noHandler i.kind) := by
  rw [dispatch, lists.queue, none]

end Lists

/-- Handlers are all registered if they are distinct; otherwise registration stops at the first that
    occurred before. -/
theorem ofHandlers_cases (handlers : List Handler) :
    (∃ t, ofHandlers handlers = .ok t ∧ t.Lists handlers ∧ Distinct handlers) ∨
      ∃ h, IsFirstRepeat handlers h ∧ ofHandlers handlers = .error (.alreadyRegistered h.name) := by
  have general : ∀ before rest t, t.Lists before → Distinct before →
      (∃ larger, rest.foldlM Table.register t = .ok larger ∧ larger.Lists (before ++ rest) ∧
        Distinct (before ++ rest)) ∨
      ∃ h, IsFirstRepeat (before ++ rest) h ∧
        rest.foldlM Table.register t = .error (.alreadyRegistered h.name) := by
    intro before rest t lists distinct
    induction rest generalizing before t with
    | nil =>
        rw [List.append_nil]
        exact .inl ⟨t, rfl, lists, distinct⟩
    | cons h rest ih =>
        rw [List.foldlM_cons]
        by_cases known : h.identity ∈ before.map Handler.identity
        · rw [lists.register_of_known known]
          exact .inr ⟨h, ⟨before, rest, rfl, distinct, known⟩, rfl⟩
        · obtain ⟨larger, registered, listed⟩ := lists.register known
          rw [registered, List.append_cons]
          exact ih _ larger listed (distinct_append_singleton.mpr ⟨distinct, known⟩)
  exact general [] handlers empty lists_empty (by simp [Distinct])

theorem ofHandlers_of_distinct {handlers : List Handler} (distinct : Distinct handlers) :
    ∃ t, ofHandlers handlers = .ok t ∧ t.Lists handlers := by
  rcases ofHandlers_cases handlers with ⟨t, registered, lists, -⟩ | ⟨h, first, -⟩
  · exact ⟨t, registered, lists⟩
  · exact absurd distinct first.not_distinct

/-- Registration stops at the first handler that is registered before. -/
theorem ofHandlers_of_isFirstRepeat {handlers : List Handler} {h : Handler}
    (first : IsFirstRepeat handlers h) :
    ofHandlers handlers = .error (.alreadyRegistered h.name) := by
  obtain ⟨before, behind, rfl, distinct, known⟩ := first
  obtain ⟨t, registered, lists⟩ := ofHandlers_of_distinct distinct
  rw [ofHandlers, List.foldlM_append]
  rw [ofHandlers] at registered
  rw [registered]
  change List.foldlM Table.register t (h :: behind) = _
  rw [List.foldlM_cons, lists.register_of_known known]
  rfl

end Table

/-! ### Calls -/

/-- What is logged of one call: that it is made, and what the handler has to say. -/
def Handler.callEvents (h : Handler) (i : Instruction) (s : State) : List Event :=
  .handlerCalled h.identity h.name i :: (h.react i s).events

/-- All calls succeed, each on the state that the one before it left, and lead from the first state to
    the last one. -/
inductive CallsSucceed (i : Instruction) : List Handler → State → State → List Event → Prop where
  | none (s : State) : CallsSucceed i [] s s []
  | call {h : Handler} {rest : List Handler} {s after : State} {events : List Event}
      (succeeded : (h.react i s).outcome = .ok ())
      (others : CallsSucceed i rest (h.react i s).state after events) :
      CallsSucceed i (h :: rest) s after (h.callEvents i s ++ events)

/-- What calls in order come to. They succeed if all of them do; otherwise they end with the first
    call that fails, and what this call did to the state stays done. -/
def CallsEnd (i : Instruction) (calls : List Handler) (s after : State) (events : List Event) :
    Except MachineFailure Unit → Prop
  | .ok () => CallsSucceed i calls s after events
  | .error failure =>
      ∃ before h behind middle noted, calls = before ++ h :: behind ∧
        CallsSucceed i before s middle noted ∧ (h.react i middle).outcome = .error failure ∧
        after = (h.react i middle).state ∧ events = noted ++ h.callEvents i middle

theorem CallsEnd.call {i : Instruction} {h : Handler} {rest : List Handler} {s after : State}
    {events : List Event} {outcome : Except MachineFailure Unit}
    (succeeded : (h.react i s).outcome = .ok ())
    (others : CallsEnd i rest (h.react i s).state after events outcome) :
    CallsEnd i (h :: rest) s after (h.callEvents i s ++ events) outcome := by
  cases outcome with
  | ok => exact CallsSucceed.call succeeded others
  | error failure =>
      obtain ⟨before, last, behind, middle, noted, rfl, calls, failed, rfl, rfl⟩ := others
      refine ⟨h :: before, last, behind, middle, h.callEvents i s ++ noted, rfl, ?_, failed, rfl, ?_⟩
      · exact CallsSucceed.call succeeded calls
      · rw [List.append_assoc]

namespace Table

theorem run_of_error {i : Instruction} {h : Handler} {s : State} {failure : MachineFailure}
    (failed : (h.react i s).outcome = .error failure) (rest : List Handler) :
    run i (h :: rest) s = ⟨(h.react i s).state, h.callEvents i s, .error failure⟩ := by
  simp [run, failed, Handler.callEvents]

theorem run_of_ok {i : Instruction} {h : Handler} {s : State}
    (succeeded : (h.react i s).outcome = .ok ()) (rest : List Handler) :
    run i (h :: rest) s =
      ⟨(run i rest (h.react i s).state).state,
        h.callEvents i s ++ (run i rest (h.react i s).state).events,
        (run i rest (h.react i s).state).outcome⟩ := by
  simp [run, succeeded, Handler.callEvents]

/-- Calls that succeed are made, and then the others are made on the state that they left. -/
theorem run_append_of_callsSucceed {i : Instruction} {before : List Handler} {s middle : State}
    {noted : List Event} (calls : CallsSucceed i before s middle noted) (rest : List Handler) :
    run i (before ++ rest) s =
      ⟨(run i rest middle).state, noted ++ (run i rest middle).events,
        (run i rest middle).outcome⟩ := by
  induction calls with
  | none s => rfl
  | call succeeded _ ih => rw [List.cons_append, run_of_ok succeeded, ih, List.append_assoc]

/-- Running through handlers is what their calls come to. -/
theorem callsEnd_run (i : Instruction) (calls : List Handler) (s : State) :
    CallsEnd i calls s (run i calls s).state (run i calls s).events (run i calls s).outcome := by
  induction calls generalizing s with
  | nil => exact .none s
  | cons h rest ih =>
      cases outcome : (h.react i s).outcome with
      | ok =>
          rw [run_of_ok outcome]
          exact .call outcome (ih (h.react i s).state)
      | error failure =>
          rw [run_of_error outcome]
          exact ⟨[], h, rest, s, [], rfl, .none s, outcome, rfl, rfl⟩

/-- Calls come to nothing else than what running through the handlers makes of them. -/
theorem run_eq_iff {i : Instruction} {calls : List Handler} {s after : State}
    {events : List Event} {outcome : Except MachineFailure Unit} :
    run i calls s = ⟨after, events, outcome⟩ ↔ CallsEnd i calls s after events outcome := by
  constructor
  · intro made
    have ends := callsEnd_run i calls s
    rwa [made] at ends
  · intro ends
    cases outcome with
    | ok =>
        have made := run_append_of_callsSucceed ends []
        rw [List.append_nil] at made
        simpa [run, Reaction.ofOutcome] using made
    | error failure =>
        obtain ⟨before, h, behind, middle, noted, rfl, calls, failed, rfl, rfl⟩ := ends
        rw [run_append_of_callsSucceed calls, run_of_error failed]

end Table

/-! ### Computers -/

namespace Computer

theorem build_eq_ofHandlers (handlers : List Handler) {side : Nat} (positive : 0 < side)
    (count : Nat) :
    build handlers side count =
      (Table.ofHandlers handlers).map fun table => ⟨.fresh side count, table⟩ := by
  have nonzero : side ≠ 0 := by omega
  rw [build, if_neg nonzero]
  cases Table.ofHandlers handlers with
  | ok table => rfl
  | error failure => rfl

/-- A computer whose registers have a side cannot be built exactly because of the first handler that
    is given for the second time. -/
theorem build_eq_error_iff (handlers : List Handler) {side : Nat} (positive : 0 < side)
    (count : Nat) (failure : MachineFailure) :
    build handlers side count = .error failure ↔
      ∃ h, IsFirstRepeat handlers h ∧ failure = .alreadyRegistered h.name := by
  rw [build_eq_ofHandlers handlers positive]
  constructor
  · intro failed
    rcases Table.ofHandlers_cases handlers with ⟨t, registered, -⟩ | ⟨h, first, refused⟩
    · rw [registered] at failed
      cases failed
    · rw [refused] at failed
      cases failed
      exact ⟨h, first, rfl⟩
  · intro found
    obtain ⟨h, first, rfl⟩ := found
    rw [Table.ofHandlers_of_isFirstRepeat first]
    rfl

/-- What is built starts from empty registers, and its table lists the handlers, none of which occurs
    twice. -/
theorem build_eq_ok {handlers : List Handler} {side : Nat} (positive : 0 < side) {count : Nat}
    {c : Computer} (built : build handlers side count = .ok c) :
    c.state = .fresh side count ∧ c.table.Lists handlers ∧ Distinct handlers := by
  rw [build_eq_ofHandlers handlers positive] at built
  rcases Table.ofHandlers_cases handlers with ⟨t, registered, lists, distinct⟩ | ⟨h, -, refused⟩
  · rw [registered] at built
    cases built
    exact ⟨rfl, lists, distinct⟩
  · rw [refused] at built
    cases built

section Execution

variable {t : Table} {handlers : List Handler}

/-- An instruction for which no call is due changes nothing. -/
theorem execute_of_callsFor_eq_nil (lists : t.Lists handlers) {i : Instruction}
    (none : callsFor i.kind handlers = []) (s : State) :
    execute ⟨s, t⟩ i = ⟨⟨s, t⟩, [], .error (.noHandler i.kind)⟩ := by
  rw [execute, lists.dispatch_of_callsFor_eq_nil none]
  rfl

/-- Executing an instruction is making the calls that are due. -/
theorem execute_eq_iff (lists : t.Lists handlers) {i : Instruction}
    (some : callsFor i.kind handlers ≠ []) (s after : State) (events : List Event)
    (outcome : Except MachineFailure Unit) :
    execute ⟨s, t⟩ i = ⟨⟨after, t⟩, events, outcome⟩ ↔
      CallsEnd i (callsFor i.kind handlers) s after events outcome := by
  rw [← Table.run_eq_iff, ← lists.dispatch_eq_run some, execute]
  cases t.dispatch i s with
  | mk state noted result => simp

end Execution

/-- Whatever the handlers do: a computer can be built of them unless one occurs twice, and the first
    that occurs for the second time is named. Each instruction is passed, in the order of
    registration, to the handlers that declare its kind, as often as they declare it, up to the first
    call that fails. If none declares the kind, nothing happens. -/
theorem build_dispatches_in_order (handlers : List Handler) {side : Nat} (positive : 0 < side)
    (count : Nat) :
    ((∃ failure, build handlers side count = .error failure) ↔ ¬ Distinct handlers) ∧
    (∀ failure, build handlers side count = .error failure ↔
      ∃ h, IsFirstRepeat handlers h ∧ failure = .alreadyRegistered h.name) ∧
    ∀ c, build handlers side count = .ok c → c.state = .fresh side count ∧
      ∀ (s : State) (i : Instruction),
        ((∀ h ∈ handlers, i.kind ∉ h.kinds) →
          execute ⟨s, c.table⟩ i = ⟨⟨s, c.table⟩, [], .error (.noHandler i.kind)⟩) ∧
        ((∃ h ∈ handlers, i.kind ∈ h.kinds) → ∀ after events outcome,
          (execute ⟨s, c.table⟩ i = ⟨⟨after, c.table⟩, events, outcome⟩ ↔
            CallsEnd i (callsFor i.kind handlers) s after events outcome)) := by
  refine ⟨?_, build_eq_error_iff handlers positive count, ?_⟩
  · constructor
    · intro failed
      obtain ⟨failure, failed⟩ := failed
      obtain ⟨h, first, -⟩ := (build_eq_error_iff handlers positive count failure).mp failed
      exact first.not_distinct
    · intro repeated
      cases built : build handlers side count with
      | ok c => exact absurd (build_eq_ok positive built).2.2 repeated
      | error failure => exact ⟨failure, rfl⟩
  · intro c built
    obtain ⟨fresh, lists, -⟩ := build_eq_ok positive built
    refine ⟨fresh, fun s i => ⟨fun none => ?_, fun some after events outcome => ?_⟩⟩
    · exact execute_of_callsFor_eq_nil lists (callsFor_eq_nil_iff.mpr none) s
    · obtain ⟨h, member, declared⟩ := some
      apply execute_eq_iff lists
      intro none
      exact callsFor_eq_nil_iff.mp none h member declared

/-- A handler that asks for each measurement twice. It notes the first call in a variable and refuses
    the second, which it notes all the same. -/
def measuringOnce (identity : Nat) : Handler where
  identity := identity
  name := "MeasuringOnce"
  kinds := [.measure, .measure]
  react _ s :=
    match s.environment.get? "first" with
    | none => ⟨s.setVariable "first" (.scalar 0), [], .ok ()⟩
    | some _ => ⟨s.setVariable "second" (.scalar 0), [], .error (.refused "measured before")⟩

/-- The second call to such a handler ends the measurement, and the handler behind it is not called.
    A handler in front that is given again behind it is refused. -/
theorem build_dispatches_in_order_twice :
    build [.tracing 0, measuringOnce 1, .tracing 0] 1 1 =
        .error (.alreadyRegistered "TraceHandler") ∧
      ∃ c, build [.tracing 0, measuringOnce 1, .tracing 2] 1 1 = .ok c ∧
        execute ⟨.fresh 1 1, c.table⟩ (.measure 0 "x") =
          ⟨⟨((State.fresh 1 1).setVariable "first" (.scalar 0)).setVariable "second" (.scalar 0),
              c.table⟩,
            [.handlerCalled 0 "TraceHandler" (.measure 0 "x"), .instructionTraced (.measure 0 "x"),
              .handlerCalled 1 "MeasuringOnce" (.measure 0 "x"),
              .handlerCalled 1 "MeasuringOnce" (.measure 0 "x")],
            .error (.refused "measured before")⟩ := by
  have positive : 0 < 1 := by decide
  obtain ⟨-, refused, -⟩ :=
    build_dispatches_in_order [.tracing 0, measuringOnce 1, .tracing 0] positive 1
  obtain ⟨-, -, dispatches⟩ :=
    build_dispatches_in_order [.tracing 0, measuringOnce 1, .tracing 2] positive 1
  constructor
  · rw [refused]
    exact ⟨.tracing 0, ⟨[.tracing 0, measuringOnce 1], [], rfl, by simp [Distinct, Handler.tracing,
      measuringOnce], by simp [Handler.tracing]⟩, rfl⟩
  · refine ⟨_, rfl, ?_⟩
    obtain ⟨-, called⟩ := (dispatches _ rfl).2 (.fresh 1 1) (.measure 0 "x")
    rw [called ⟨measuringOnce 1, by simp, by simp [measuringOnce, Instruction.kind]⟩]
    exact ⟨[.tracing 0, measuringOnce 1], measuringOnce 1, [.tracing 2], _, _, rfl,
      .call rfl (.call rfl (.none _)), rfl, rfl, rfl⟩

end Computer

end QuantumAssembler
