import QuantumAssembler.Console.Arguments

/-!
Module: QuantumAssembler.Console.Help
Purpose: What the program says about itself: its version, and for each scope of the command line
  how it is used.
Main exports: versionText, usageText
-/

namespace QuantumAssembler.Console

/-- The name of a scope: that of the program, with the command behind a hyphen. -/
def scopeName : Scope → String
  | none => "qsim"
  | some verb => "qsim-" ++ verb.word

/-- The line that tells the version. -/
def versionText (scope : Scope) : String :=
  scopeName scope ++ " 0.1.0\n"

/-- What a command does. -/
def Verb.summary : Verb → String
  | shell => "Interactive shell (default when no subcommand is given)"
  | run => "Execute a program, one instruction per line"
  | tokens => "Print the token stream of a file"
  | parse => "Parse a single instruction and print it"

/-- The words behind the name of the program in the usage line of a scope. -/
def usagePattern : Scope → String
  | none => "[OPTIONS] [COMMAND]"
  | some .shell => "shell [OPTIONS]"
  | some .parse => "parse [OPTIONS] <LINE>"
  | some verb => verb.word ++ " [OPTIONS] <INPUT>"

/-- The options of every scope. -/
def commonOptions : String :=
  "      --config <FILE>  Global: path to config (TOML); default: ~/.qsim/config.toml\n" ++
  "      --registers <N>  Global: number of registers (overrides config)\n" ++
  "      --side <S>       Global: register side length (overrides config)\n" ++
  "      --trace          Global: log every executed instruction\n" ++
  "  -v, --verbose...     Global: more log output (-v info, -vv debug, -vvv trace)\n" ++
  "  -h, --help           Print help\n" ++
  "  -V, --version        Print version\n"

/-- The option of the commands that can answer in JSON. -/
def jsonOption : Verb → String
  | .run => "      --json           Print the final state as JSON instead of the status dump\n"
  | .parse => "      --json           Print the instruction as JSON\n"
  | _ => ""

/-- How a scope of the command line is used. -/
def usageText (scope : Scope) : String :=
  let usage := "\nUsage: qsim " ++ usagePattern scope ++ "\n\n"
  match scope with
  | none =>
    "Quantum assembler simulator for .qasm programs\n" ++ usage ++ "Commands:\n" ++
      String.join (Verb.all.map fun v =>
        "  " ++ v.word ++ String.ofList (List.replicate (8 - v.word.length) ' ') ++ v.summary ++
          "\n") ++ "\nOptions:\n" ++ commonOptions
  | some verb =>
    verb.summary ++ "\n" ++ usage ++ "Options:\n" ++ jsonOption verb ++ commonOptions

end QuantumAssembler.Console
