/-!
Module: QuantumAssembler.Language.Keyword
Purpose: The reserved words of the assembly language: seven operations and two gates. A reserved
  word is never a variable name, and its spelling is case-sensitive.
Main exports: Keyword, Keyword.word, Keyword.ofWord?, Keyword.ofWord?_word
-/

namespace QuantumAssembler

/-- The reserved words, operations first, then the two gates that have names of their own. -/
inductive Keyword where
  | load
  | select
  | apply
  | concat
  | tensor
  | measure
  | inverse
  | cnot
  | hadamard
deriving DecidableEq, Repr

namespace Keyword

/-- Every reserved word once. -/
def all : List Keyword :=
  [load, select, apply, concat, tensor, measure, inverse, cnot, hadamard]

/-- The spelling of a reserved word. -/
def word : Keyword → String
  | load => "INITIALIZE"
  | select => "SELECT"
  | apply => "APPLY"
  | concat => "CONCAT"
  | tensor => "TENSOR"
  | measure => "MEASURE"
  | inverse => "INVERSE"
  | cnot => "CNOT"
  | hadamard => "H"

/-- The reserved word with the given spelling, if there is one. -/
def ofWord? (spelling : String) : Option Keyword :=
  all.find? fun k => k.word == spelling

/-- A reserved word is found by its own spelling. -/
theorem ofWord?_word (k : Keyword) : ofWord? k.word = some k := by
  cases k <;> decide

/-- Only the spelling of a reserved word finds it. -/
theorem word_of_ofWord? {spelling : String} {k : Keyword} (h : ofWord? spelling = some k) :
    k.word = spelling := by
  simpa using List.find?_some h

end Keyword

end QuantumAssembler
