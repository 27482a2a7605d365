import QuantumAssembler.Console.Commands
import QuantumAssembler.Console.Help
import QuantumAssembler.Console.Session
import QuantumAssembler.Settings.Written
import QuantumAssembler.Text.CodePoint
import QuantumAssembler.Unicode.Normalization

/-!
Module: QuantumAssembler.Console.Invocation
Purpose: The whole program as a function: from the words of the command line and the files it may
  read to all that is written, or to a conversation that is to be held. Source texts are brought
  into normalization form C, and settings files have one line for each setting.
Main exports: Surroundings, settingsFileIn, filesOf, Invocation, invoke, Invocation.complete
-/

namespace QuantumAssembler.Console

/-- What the program finds when it is started. -/
structure Surroundings where
  /-- The settings file that is used if the command line names none. -/
  settingsFile : Option String
  /-- The content of the file at a path. -/
  read : String → Except ReadFailure String

/-- The settings file of a user with the given home directory. -/
def settingsFileIn (home : String) : String :=
  (if home.endsWith "/" then home else home ++ "/") ++ ".qsim/config.toml"

/-- The files that a command line makes the program read. -/
def filesOf (settingsFile : Option String) (words : List String) : List String :=
  match Arguments.ofWords words with
  | .error _ => []
  | .ok a =>
    (a.config <|> settingsFile).toList ++
      match a.command with
      | some (.run input _) => [input]
      | some (.tokens input) => [input]
      | _ => []

/-- How the program goes on after its start. -/
inductive Invocation where
  | finished (a : Answer)
  /-- Something was written, and a conversation begins. -/
  | conversation (before : List Output) (s : Session)

namespace Invocation

/-- What the program does with something written before it. -/
def after (before : List Output) : Invocation → Invocation
  | finished a => finished (a.after before)
  | conversation outputs s => conversation (before ++ outputs) s

/-- All that the program writes, if the given lines are what it is told in a conversation. -/
def complete (lines : List (List Char)) : Invocation → Answer
  | finished a => a
  | conversation before s => .success (before ++ s.greeting :: s.converse lines)

end Invocation

/-- The settings of a file, or the defaults if there is none to look for. -/
def loadSettings (around : Surroundings) (file : Option String) :
    Except SettingsFailure Settings :=
  match file with
  | none => .ok {}
  | some path => Settings.load path (around.read path)

/-- The filter by which the program logs. Tracing is of no use below the level `info`. -/
def effectiveFilter (a : Arguments) (s : Settings) : String :=
  let filter := a.logFilter s
  if s.trace && filter == "warn" then "info" else filter

/-- What is written about a part of the filter that cannot be read. -/
def complaintOutput (complaint : String) : Output :=
  .message ("warning: " ++ complaint ++ ", ignoring it\n")

/-- The settings in the form in which they are logged. -/
def settingsText (s : Settings) : String :=
  "QsimConfig \x7b registers: " ++ toString s.registers ++ ", side: " ++ toString s.side ++
    ", trace: " ++ toString s.trace ++ ", log_level: " ++ Text.quoted s.logLevel ++
    ", prompt: " ++ Text.quoted s.prompt ++ " \x7d"

/-- The record of the settings in force and of the file they were looked for in. -/
def settingsRecord (s : Settings) (file : Option String) : LogRecord :=
  let place := match file with
    | none => "None"
    | some path => "Some(" ++ Text.quoted path ++ ")"
  ⟨.debug, .program, "config " ++ settingsText s ++ " from " ++ place⟩

/-- The answer of a program that cannot use its settings file. -/
def settingsAnswer (failure : SettingsFailure) : Answer :=
  let cause := match failure with
    | .unreadable _ why => some why.text
    | .malformed _ => some "not in the format of settings files"
    | _ => none
  .failure [] failure.message cause

/-- Begins a conversation with a fresh computer. -/
def beginConversation (filter : LogFilter) (s : Settings) : Invocation :=
  let building := filter.outputs (Computer.buildEvents (Computer.standardHandlers s.trace) s.side)
  match Computer.standard s.side s.registers s.trace with
  | .error fault => .finished (.failure building fault.message none)
  | .ok c => .conversation building ⟨c, s.prompt, filter⟩

/-- Carries out a command. -/
def carryOut (around : Surroundings) (filter : LogFilter) (s : Settings) :
    Option Command → Invocation
  | none | some .shell => beginConversation filter s
  | some (.run input json) => .finished (.ofRun filter s input (around.read input) json)
  | some (.tokens input) => .finished (.ofTokens filter input (around.read input))
  | some (.parse line json) => .finished (.ofParse filter line json)

/-- The answer to a command line that is not carried out. -/
def usageAnswer (fault : UsageFault) : Answer :=
  match fault with
  | .displayHelp scope => .success [.answer (usageText scope)]
  | .displayVersion scope => .success [.answer (versionText scope)]
  | _ => ⟨[.message ("error: " ++ fault.name ++ "\n\n" ++ usageText none)], fault.exitCode⟩

/-- Starts the program. -/
def invoke (around : Surroundings) (words : List String) : Invocation :=
  match Arguments.ofWords words with
  | .error fault => .finished (usageAnswer fault)
  | .ok a =>
    let file := a.config <|> around.settingsFile
    match loadSettings around file with
    | .error failure => .finished (settingsAnswer failure)
    | .ok s =>
      let s := a.override s
      let (filter, complaints) := LogFilter.ofText (effectiveFilter a s)
      let before := complaints.map complaintOutput ++ filter.outputsOfRecord (settingsRecord s file)
      (carryOut around filter s a.command).after before

end QuantumAssembler.Console
