import QuantumAssembler.Console.LogFilter

/-!
Module: QuantumAssembler.Console.Output
Purpose: What the program writes, in order, on its two channels: answers, and messages about the
  work. Log records and the reports of failures are messages.
Main exports: Output, Output.answers, Output.messages, Answer, LogFilter.outputs, failureReport
-/

namespace QuantumAssembler.Console

/-- A text on one of the two channels. -/
inductive Output where
  | answer (text : String)
  | message (text : String)
deriving DecidableEq, Repr

namespace Output

/-- All that is written on the channel for answers. -/
def answers (outputs : List Output) : String :=
  String.join (outputs.map fun
    | answer text => text
    | message _ => "")

/-- All that is written on the channel for messages. -/
def messages (outputs : List Output) : String :=
  String.join (outputs.map fun
    | answer _ => ""
    | message text => text)

theorem answers_append (front back : List Output) :
    answers (front ++ back) = answers front ++ answers back := by
  rw [answers, List.map_append, String.join_append]
  rfl

theorem messages_append (front back : List Output) :
    messages (front ++ back) = messages front ++ messages back := by
  rw [messages, List.map_append, String.join_append]
  rfl

end Output

/-- What a finished program has written, and its exit code. -/
structure Answer where
  outputs : List Output
  code : Nat
deriving DecidableEq, Repr

namespace Answer

/-- The answer of a program that did what it was asked for. -/
def success (outputs : List Output) : Answer := ⟨outputs, 0⟩

/-- The answer with something written before it. -/
def after (before : List Output) (a : Answer) : Answer :=
  { a with outputs := before ++ a.outputs }

end Answer

namespace LogFilter

/-- What is written of a log record. -/
def outputsOfRecord (f : LogFilter) (r : LogRecord) : List Output :=
  if f.shows r then [.message r.line] else []

/-- What is written of events. -/
def outputs (f : LogFilter) (events : List Event) : List Output :=
  events.flatMap fun e => f.outputsOfRecord e.record

end LogFilter

/-- The report of what ends the program, with its cause if that is told apart. -/
def failureReport (text : String) (cause : Option String) : String :=
  "Error: " ++ text ++
    (match cause with
      | none => ""
      | some cause => "\n\nCaused by:\n    " ++ cause) ++ "\n"

namespace Answer

/-- The answer of a program that was ended by a failure. -/
def failure (outputs : List Output) (text : String) (cause : Option String) : Answer :=
  ⟨outputs ++ [.message (failureReport text cause)], 1⟩

end Answer

end QuantumAssembler.Console
