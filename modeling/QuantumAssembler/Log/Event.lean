import QuantumAssembler.Language.Instruction
import QuantumAssembler.Language.TokenStream

/-!
Module: QuantumAssembler.Log.Event
Purpose: What happens while texts are read and instructions are carried out, in order, and how it is
  logged: with a level of severity, the part of the program that speaks, and a message.
Main exports: Level, Source, LogRecord, Event, Event.record, Event.ofText
-/

namespace QuantumAssembler

/-- Levels of severity, most severe first. -/
inductive Level where
  | error
  | warn
  | info
  | debug
  | trace
deriving DecidableEq, Repr

namespace Level

/-- The rank of a level; more severe levels come first. -/
def rank : Level → Nat
  | error => 1
  | warn => 2
  | info => 3
  | debug => 4
  | trace => 5

/-- The name of a level as it is logged. -/
def name : Level → String
  | error => "ERROR"
  | warn => "WARN"
  | info => "INFO"
  | debug => "DEBUG"
  | trace => "TRACE"

end Level

/-- The parts of the program that log. -/
inductive Source where
  | program
  | tokens
  | dispatch
  | handlers
  | execution
deriving DecidableEq, Repr

namespace Source

/-- The name of a part of the program, by which logs are filtered. -/
def name : Source → String
  | program => "qsim"
  | tokens => "qsim::core::lexer"
  | dispatch => "qsim::core::computer"
  | handlers => "qsim::core::handlers"
  | execution => "qsim::commands::run"

end Source

/-- One line of a log. -/
structure LogRecord where
  level : Level
  source : Source
  message : String
deriving DecidableEq, Repr

/-- What happens while texts are read and instructions are carried out. -/
inductive Event where
  | tokenRead (t : Token)
  | diagnosed (d : Diagnostic)
  | handlerRegistered (name : String) (kinds : List InstructionKind)
  /-- The handler with the given identity is about to be called. -/
  | handlerCalled (identity : Nat) (name : String) (instruction : Instruction)
  | registerLoaded (register : Nat)
  | cellsSelected (register start stop : Nat) (target : String)
  | instructionTraced (instruction : Instruction)
deriving DecidableEq, Repr

namespace Event

/-- How an event is logged. -/
def record : Event → LogRecord
  | tokenRead t => ⟨.debug, .tokens, "token " ++ t.text⟩
  | diagnosed d => ⟨.warn, .tokens, d.text⟩
  | handlerRegistered name kinds =>
    ⟨.debug, .dispatch,
      "registered " ++ name ++ " for [" ++ ", ".intercalate (kinds.map InstructionKind.name) ++ "]"⟩
  | handlerCalled _ name instruction => ⟨.debug, .dispatch, name ++ " <- " ++ instruction.text⟩
  | registerLoaded register => ⟨.info, .handlers, "initialized R" ++ toString register⟩
  | cellsSelected register start stop target =>
    ⟨.info, .handlers,
      "selected R" ++ toString register ++ "[" ++ toString start ++ ".." ++ toString stop ++
        "] into " ++ target⟩
  | instructionTraced instruction =>
    ⟨.info, .handlers, "Executing instruction: '" ++ instruction.text ++ "'"⟩

/-- The event that a placed segment of a text gives rise to, if any. -/
def ofSegment? (s : Position × Segment) : Option Event :=
  match tokenAt? s, diagnosticAt? s with
  | some t, _ => some (.tokenRead t)
  | none, some d => some (.diagnosed d)
  | none, none => none

/-- The events of reading a whole text, in order; the end token is read last. -/
def ofText (cs : List Char) : List Event :=
  (placed .start (segments cs)).filterMap ofSegment? ++
    [.tokenRead (.atEnd (Position.start.after cs))]

end Event

end QuantumAssembler
