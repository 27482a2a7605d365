import QuantumAssembler.Machine.Handler

/-!
Module: QuantumAssembler.Machine.Dispatch
Purpose: A computer passes each instruction to the handlers that declared its kind, in the order in
  which they were registered, and stops at the first that fails. What that handler had done by then
  stays done. No handler is registered twice.
Main exports: Table, Table.register, Table.ofHandlers, Table.run, Computer, Computer.build,
  Computer.standard, Computer.execute
-/

namespace QuantumAssembler

/-- The registered handlers in order, and for each kind of instruction those to be called. -/
structure Table where
  registered : List Handler
  queue : InstructionKind → List Handler

namespace Table

/-- No handlers. -/
def empty : Table := ⟨[], fun _ => []⟩

/-- Adds a handler at the end of the queue for one kind. -/
def enqueue (queue : InstructionKind → List Handler) (h : Handler) (kind : InstructionKind) :
    InstructionKind → List Handler :=
  fun k => if k = kind then queue k ++ [h] else queue k

/-- Registers a handler for each kind that it declares. -/
def register (t : Table) (h : Handler) : Except MachineFailure Table :=
  if t.registered.any fun other => other.identity == h.identity then
    .error (.alreadyRegistered h.name)
  else
    .ok ⟨t.registered ++ [h], h.kinds.foldl (fun queue kind => enqueue queue h kind) t.queue⟩

/-- Registers handlers in order. -/
def ofHandlers (handlers : List Handler) : Except MachineFailure Table :=
  handlers.foldlM register empty

/-- The events of registering handlers in order, up to the first that is refused. -/
def registrations (t : Table) : List Handler → List Event
  | [] => []
  | h :: rest =>
    match t.register h with
    | .error _ => []
    | .ok larger => .handlerRegistered h.name h.kinds :: larger.registrations rest

/-- Calls handlers in order, up to the first that fails. -/
def run (instruction : Instruction) : List Handler → State → Reaction
  | [], s => .ofOutcome s (.ok ())
  | h :: rest, s =>
    let called := Event.handlerCalled h.identity h.name instruction
    let first := h.react instruction s
    match first.outcome with
    | .error failure => ⟨first.state, called :: first.events, .error failure⟩
    | .ok () =>
      let others := run instruction rest first.state
      ⟨others.state, called :: (first.events ++ others.events), others.outcome⟩

/-- Passes an instruction to the handlers queued for its kind; there has to be one. -/
def dispatch (t : Table) (instruction : Instruction) (s : State) : Reaction :=
  match t.queue instruction.kind with
  | [] => .failed s (.noHandler instruction.kind)
  | handlers => run instruction handlers s

end Table

/-- A computer: its state, and the handlers that carry out instructions on it. -/
structure Computer where
  state : State
  table : Table

/-- What comes of executing an instruction on a computer. -/
structure Execution where
  computer : Computer
  events : List Event
  outcome : Except MachineFailure Unit

namespace Computer

/-- A computer of `count` empty registers with the given handlers. -/
def build (handlers : List Handler) (side count : Nat) : Except MachineFailure Computer := do
  if side = 0 then .error .noSide
  else return ⟨.fresh side count, ← Table.ofHandlers handlers⟩

/-- The handlers of a standard computer. Tracing, if it is asked for, comes first. -/
def standardHandlers (trace : Bool) : List Handler :=
  (if trace then [.tracing 0] else []) ++ [.loading 1, .selecting 2]

/-- A computer with the standard handlers. -/
def standard (side count : Nat) (trace : Bool) : Except MachineFailure Computer :=
  build (standardHandlers trace) side count

/-- The events of building a computer. -/
def buildEvents (handlers : List Handler) (side : Nat) : List Event :=
  if side = 0 then [] else Table.empty.registrations handlers

/-- Executes an instruction. -/
def execute (c : Computer) (instruction : Instruction) : Execution :=
  let reaction := c.table.dispatch instruction c.state
  ⟨{ c with state := reaction.state }, reaction.events, reaction.outcome⟩

end Computer

end QuantumAssembler
