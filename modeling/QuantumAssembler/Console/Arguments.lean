import QuantumAssembler.Decimal.Reading
import QuantumAssembler.Settings.Basic

/-!
Module: QuantumAssembler.Console.Arguments
Purpose: The command line of the simulator. It is read in two scopes: options in front of a
  command, and the command with its own options and operand. Options common to both scopes may
  stand in either; the inner one wins. An option or operand is settled only when the next one is
  met or the scope ends, so that of two faults the one met first by this rule is reported.
Main exports: Verb, UsageFault, Command, Arguments, Arguments.ofWords, Arguments.override,
  Arguments.logFilter
-/

namespace QuantumAssembler.Console

/-- The commands. -/
inductive Verb where
  | shell
  | run
  | tokens
  | parse
deriving DecidableEq, Repr

namespace Verb

/-- Every command once. -/
def all : List Verb := [shell, run, tokens, parse]

/-- The word that gives a command. -/
def word : Verb → String
  | shell => "shell"
  | run => "run"
  | tokens => "tokens"
  | parse => "parse"

/-- The command that a word gives. -/
def ofWord? (word : String) : Option Verb :=
  all.find? fun v => v.word == word

/-- Whether a command has an operand. It must then be given. -/
def hasOperand : Verb → Bool
  | shell => false
  | _ => true

/-- Whether a command can answer in JSON. -/
def hasJson : Verb → Bool
  | run => true
  | parse => true
  | _ => false

end Verb

/-- A scope of the command line: that of a command, or the outer one. -/
abbrev Scope := Option Verb

/-- Why a command line is not carried out. Asking for help or for the version is no mistake. -/
inductive UsageFault where
  | unknownArgument
  | tooManyValues
  | argumentConflict
  | invalidValue
  | valueValidation
  | missingRequiredArgument
  | invalidSubcommand
  | displayHelp (scope : Scope)
  | displayVersion (scope : Scope)
deriving DecidableEq, Repr

namespace UsageFault

/-- The name of a fault. -/
def name : UsageFault → String
  | unknownArgument => "UnknownArgument"
  | tooManyValues => "TooManyValues"
  | argumentConflict => "ArgumentConflict"
  | invalidValue => "InvalidValue"
  | valueValidation => "ValueValidation"
  | missingRequiredArgument => "MissingRequiredArgument"
  | invalidSubcommand => "InvalidSubcommand"
  | displayHelp _ => "DisplayHelp"
  | displayVersion _ => "DisplayVersion"

/-- The exit code of the program. -/
def exitCode : UsageFault → Nat
  | displayHelp _ => 0
  | displayVersion _ => 0
  | _ => 2

end UsageFault

/-- What takes a value: three options, and the operand of a command. -/
inductive Argument where
  | config
  | registers
  | side
  | operand
deriving DecidableEq, Repr

/-- The options without a value. -/
inductive Switch where
  | trace
  | verbose
  | json
  | help
  | version
deriving DecidableEq, Repr

/-- The meaning of an option. -/
inductive Meaning where
  | argument (a : Argument)
  | switch (s : Switch)
deriving DecidableEq, Repr

/-- The meaning of a long option in a scope. -/
def longMeaning? (scope : Scope) (name : String) : Option Meaning :=
  match name with
  | "config" => some (.argument .config)
  | "registers" => some (.argument .registers)
  | "side" => some (.argument .side)
  | "trace" => some (.switch .trace)
  | "verbose" => some (.switch .verbose)
  | "help" => some (.switch .help)
  | "version" => some (.switch .version)
  | "json" => if (scope.map Verb.hasJson).getD false then some (.switch .json) else none
  | _ => none

/-- The meaning of a short option. -/
def shortMeaning? (c : Char) : Option Switch :=
  match c with
  | 'v' => some .verbose
  | 'h' => some .help
  | 'V' => some .version
  | _ => none

/-- What one scope of the command line was given. -/
structure Given where
  config : Option String := none
  registers : Option Nat := none
  side : Option Nat := none
  operand : Option String := none
  trace : Bool := false
  verbose : Option Nat := none
  json : Bool := false
deriving DecidableEq, Repr

/-- A scope that is partly read. -/
structure Progress where
  given : Given := {}
  /-- The argument that is not settled yet, with its value if that was met. -/
  pending : Option (Argument × Option String) := none
  /-- Whether the operand was met. -/
  operandMet : Bool := false
  /-- Whether all further words are operands. -/
  operandsOnly : Bool := false
deriving DecidableEq, Repr

/-! ### Values -/

/-- Numbers on the command line are below this bound. -/
def countBound : Nat := Nat.pow 2 64

/-- The value of a number on the command line, which may have a plus sign. -/
def count? (word : String) : Option Nat :=
  let digits := match word.toList with
    | '+' :: rest => rest
    | cs => cs
  if digits ≠ [] ∧ digits.all Char.isDigit ∧ Decimal.valueOf digits < countBound then
    some (Decimal.valueOf digits)
  else none

/-- A number given for the first time in its scope. -/
def settleCount (held : Option Nat) (value : String) : Except UsageFault Nat :=
  if held.isSome then .error .argumentConflict
  else match count? value with
    | some n => .ok n
    | none => .error .valueValidation

/-- A path given for the first time in its scope; it is not empty. -/
def settlePath (held : Option String) (value : String) : Except UsageFault String :=
  if held.isSome then .error .argumentConflict
  else if value = "" then .error .invalidValue
  else .ok value

/-- Takes up an argument. -/
def Given.settle (g : Given) (scope : Scope) (a : Argument) (value : Option String) :
    Except UsageFault Given :=
  match value with
  | none => .error .invalidValue
  | some value =>
    match a with
    | .config => do return { g with config := some (← settlePath g.config value) }
    | .registers => do return { g with registers := some (← settleCount g.registers value) }
    | .side => do return { g with side := some (← settleCount g.side value) }
    | .operand =>
      if scope = some .parse then .ok { g with operand := some value }
      else do return { g with operand := some (← settlePath g.operand value) }

/-- Takes up an option without a value. Only `verbose` may be given more than once. -/
def Given.switch (g : Given) (scope : Scope) : Switch → Except UsageFault Given
  | .trace => if g.trace then .error .argumentConflict else .ok { g with trace := true }
  | .json => if g.json then .error .argumentConflict else .ok { g with json := true }
  | .verbose => .ok { g with verbose := some (min (g.verbose.getD 0 + 1) 255) }
  | .help => .error (.displayHelp scope)
  | .version => .error (.displayVersion scope)

/-! ### Words -/

namespace Progress

/-- Settles what is pending. -/
def settle (p : Progress) (scope : Scope) : Except UsageFault Progress :=
  match p.pending with
  | none => .ok p
  | some (a, value) => do
    return { p with given := ← p.given.settle scope a value, pending := none }

/-- Whether the next word that is no option is the value of an option. -/
def awaitsValue (p : Progress) : Bool :=
  match p.pending with
  | some (.operand, _) => false
  | some (_, none) => true
  | _ => false

/-- Takes up an option without a value. -/
def switch (p : Progress) (scope : Scope) (s : Switch) : Except UsageFault Progress := do
  let p ← p.settle scope
  return { p with given := ← p.given.switch scope s }

/-- Takes up a long option, with the value that is attached to it, if any. -/
def long (p : Progress) (scope : Scope) (name : String) (attached : Option String) :
    Except UsageFault Progress :=
  match longMeaning? scope name, attached with
  | none, _ => .error .unknownArgument
  | some (.switch _), some _ => .error .tooManyValues
  | some (.switch s), none => p.switch scope s
  | some (.argument a), some value => do
    let p ← p.settle scope
    return { p with given := ← p.given.settle scope a (some value) }
  | some (.argument a), none => do
    return { ← p.settle scope with pending := some (a, none) }

/-- Takes up short options written in one word. -/
def shorts (p : Progress) (scope : Scope) : List Char → Except UsageFault Progress
  | [] => .ok p
  | c :: rest =>
    match shortMeaning? c with
    | none => .error .unknownArgument
    | some s => do (← p.switch scope s).shorts scope rest

/-- Takes up a word that is no option and no value of one. -/
def operand (p : Progress) (scope : Scope) (word : String) : Except UsageFault Progress :=
  match scope with
  | none =>
    if p.operandsOnly ∧ (Verb.ofWord? word).isSome then .error .unknownArgument
    else .error .invalidSubcommand
  | some verb =>
    if verb.hasOperand ∧ !p.operandMet then do
      return { ← p.settle scope with pending := some (.operand, some word), operandMet := true }
    else .error .unknownArgument

/-- Cuts a long option from the value attached to it by an equals sign. -/
def splitAttached (body : List Char) : String × Option String :=
  match body.dropWhile (· != '=') with
  | '=' :: value => (String.ofList (body.takeWhile (· != '=')), some (String.ofList value))
  | _ => (String.ofList body, none)

/-- Takes up a word other than a command. -/
def word (p : Progress) (scope : Scope) (w : String) : Except UsageFault Progress :=
  if p.operandsOnly then p.operand scope w
  else match w.toList with
    | ['-', '-'] => .ok { p with operandsOnly := true }
    | '-' :: '-' :: body =>
      let (name, attached) := splitAttached body
      p.long scope name attached
    | '-' :: c :: rest => p.shorts scope (c :: rest)
    | _ =>
      match p.pending with
      | some (a, none) => .ok { p with pending := some (a, some w) }
      | _ => p.operand scope w

/-- The command that a word gives at this place, if it gives one. -/
def command? (p : Progress) (scope : Scope) (w : String) : Option Verb :=
  if scope.isNone && !p.operandsOnly && !p.awaitsValue then Verb.ofWord? w else none

/-- What a scope was given in the end. An operand that is asked for has to be there. -/
def finish (p : Progress) (scope : Scope) : Except UsageFault Given := do
  let p ← p.settle scope
  if (scope.map Verb.hasOperand).getD false && p.given.operand.isNone then
    .error .missingRequiredArgument
  else return p.given

end Progress

/-- Reads a scope to its end. When a command is met, its scope is read first, up to its end. -/
def readScope (scope : Scope) (p : Progress) :
    List String → Except UsageFault (Given × Option (Verb × Given))
  | [] => do return (← p.finish scope, none)
  | w :: rest =>
    match p.command? scope w with
    | some verb => do
      let (inner, _) ← readScope (some verb) {} rest
      return (← p.finish scope, some (verb, inner))
    | none => do readScope scope (← p.word scope w) rest

/-! ### The result -/

/-- A command with its operands. -/
inductive Command where
  | shell
  | run (input : String) (json : Bool)
  | tokens (input : String)
  | parse (line : String) (json : Bool)
deriving DecidableEq, Repr

/-- A command line that can be carried out. -/
structure Arguments where
  command : Option Command
  config : Option String
  registers : Option Nat
  side : Option Nat
  trace : Bool
  /-- How often more log output was asked for. -/
  verbose : Nat
deriving DecidableEq, Repr

/-- The command of a verb with what it was given. -/
def Verb.command (v : Verb) (g : Given) : Command :=
  let operand := g.operand.getD ""
  match v with
  | shell => .shell
  | run => .run operand g.json
  | tokens => .tokens operand
  | parse => .parse operand g.json

namespace Arguments

/-- Joins the two scopes; what the inner one was given wins. -/
def ofScopes (outer : Given) (inner : Option (Verb × Given)) : Arguments :=
  let given := (inner.map (·.2)).getD {}
  { command := inner.map fun (verb, g) => verb.command g
    config := given.config <|> outer.config
    registers := given.registers <|> outer.registers
    side := given.side <|> outer.side
    trace := given.trace || outer.trace
    verbose := (given.verbose <|> outer.verbose).getD 0 }

/-- Reads the words of a command line. -/
def ofWords (words : List String) : Except UsageFault Arguments := do
  let (outer, inner) ← readScope none {} words
  return ofScopes outer inner

/-- Settings with what the command line overrides. -/
def override (a : Arguments) (s : Settings) : Settings :=
  { s with
    registers := a.registers.getD s.registers
    side := a.side.getD s.side
    trace := a.trace || s.trace }

/-- What is logged, by the command line or else by the settings. -/
def logFilter (a : Arguments) (s : Settings) : String :=
  match a.verbose with
  | 0 => s.logLevel
  | 1 => "info"
  | 2 => "debug"
  | _ => "trace"

end Arguments

end QuantumAssembler.Console
