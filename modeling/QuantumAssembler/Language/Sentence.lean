import QuantumAssembler.Language.Instruction
import QuantumAssembler.Language.TokenStream
import QuantumAssembler.Text.NormalForm

/-!
Module: QuantumAssembler.Language.Sentence
Purpose: The reading of one instruction from a list of tokens. A cursor stands on a token and never
  passes an end token. Each production reads what it asks for or stops where the cursor stands with
  a syntax error that says what was asked for. instruction := INITIALIZE register [bits] | SELECT
  name register number number | APPLY matrix register | MEASURE register name | name CONCAT matrix
  matrix | name TENSOR matrix matrix | name INVERSE matrix matrix := CNOT | H | identity | name |
  register
Main exports: Demand, SyntaxFault, SyntaxError, Cursor, Cursor.ofTokens, Production, sentence,
  readLine
-/

namespace QuantumAssembler

/-- What a production asks for at the place where it stops. -/
inductive Demand where
  | instruction
  | loadedRegister
  | selectTarget
  | selectedRegister
  | offset
  | count
  | appliedRegister
  | measuredRegister
  | measureTarget
  | assignment
  | matrix
deriving DecidableEq, Repr

namespace Demand

/-- The wording of what is asked for. -/
def text : Demand → String
  | instruction => "Expected an instruction"
  | loadedRegister => "Expected register after INITIALIZE"
  | selectTarget => "Expected variable after SELECT"
  | selectedRegister => "Expected register to select from"
  | offset => "Expected offset"
  | count => "Expected element count"
  | appliedRegister => "Expected target register"
  | measuredRegister => "Expected register after MEASURE"
  | measureTarget => "Expected result variable"
  | assignment => "Expected CONCAT, TENSOR or INVERSE after variable"
  | matrix => "Expected a gate, variable or register"

end Demand

/-- Why a list of tokens is no instruction. -/
inductive SyntaxFault where
  /-- Something else stands where a part of the instruction is asked for. -/
  | unmet (demand : Demand)
  /-- The tokens end where a part of the instruction is asked for. -/
  | endedEarly (demand : Demand)
  /-- A token that begins no instruction stands in front. -/
  | noInstruction (found : TokenKind)
  /-- A token stands behind the whole instruction. -/
  | trailing (found : TokenKind)
deriving DecidableEq, Repr

/-- A syntax fault and the place of the token at which reading stopped. -/
structure SyntaxError where
  fault : SyntaxFault
  position : Position
deriving DecidableEq, Repr

namespace SyntaxError

/-- The wording of a syntax error, without its place. -/
def message (e : SyntaxError) : String :=
  match e.fault with
  | .unmet demand => demand.text
  | .endedEarly demand => demand.text ++ ", found end of input"
  | .noInstruction found => "Expected an instruction, found " ++ found.className
  | .trailing found => "Unexpected " ++ found.className ++ " after instruction"

/-- A syntax error with its place. -/
def text (e : SyntaxError) : String :=
  e.message ++ " at " ++ e.position.text

end SyntaxError

/-- The place in a token list: the token next to be read, and those behind it. -/
structure Cursor where
  current : Token
  later : List Token
deriving DecidableEq, Repr

namespace Cursor

/-- The place of the end token that is added to a list that lacks one: behind the bytes of the last
    token, or the start of the text. -/
def endAfter (tokens : List Token) : Token :=
  match tokens.getLast? with
  | some t => .atEnd ⟨t.position.line, t.position.column + t.lexeme.utf8ByteSize⟩
  | none => .atEnd .start

/-- The token list with an end token as its last. -/
def closed (tokens : List Token) : List Token :=
  if (tokens.getLast?.map Token.isEnd).getD false then tokens else tokens ++ [endAfter tokens]

/-- The cursor on the first token of a list; an end token is added if the list does not end in one.
    -/
def ofTokens (tokens : List Token) : Cursor :=
  match closed tokens with
  | [] => ⟨.atEnd .start, []⟩
  | t :: later => ⟨t, later⟩

/-- Steps to the next token; at an end token the cursor stays. -/
def advance (c : Cursor) : Cursor :=
  if c.current.isEnd then c
  else match c.later with
    | [] => c
    | t :: later => ⟨t, later⟩

end Cursor

/-- A production reads from a cursor and leaves it where reading stopped, also when it fails. -/
abbrev Production := EStateM SyntaxError Cursor

namespace Production

/-- Stops at the current token because `demand` is not met there. -/
def refuse {α : Type} (demand : Demand) : Production α := fun c =>
  .error ⟨if c.current.isEnd then .endedEarly demand else .unmet demand, c.current.position⟩ c

/-- Reads the current token if `choose` takes it. -/
def accept {α : Type} (choose : TokenKind → Option α) (demand : Demand) : Production α := fun c =>
  match choose c.current.kind with
  | some value => .ok value c.advance
  | none => refuse demand c

/-- Reads a register. -/
def register (demand : Demand) : Production Nat :=
  accept (fun | .register n => some n | _ => none) demand

/-- Reads a variable name. -/
def name (demand : Demand) : Production String :=
  accept (fun | .name spelling => some spelling | _ => none) demand

/-- Reads a number. -/
def number (demand : Demand) : Production Nat :=
  accept (fun | .number n => some n | _ => none) demand

/-- Reads a matrix operand. -/
def matrix : Production MatrixRef :=
  accept
    (fun
      | .keyword .cnot => some (.gate .cnot)
      | .keyword .hadamard => some (.gate .hadamard)
      | .identity n => some (.gate (.identity n))
      | .name spelling => some (.named spelling)
      | .register n => some (.register n)
      | _ => none)
    .matrix

/-- Reads a bit-string if one stands here. -/
def optionalBits : Production (Option String) := fun c =>
  match c.current.kind with
  | .bits digits => .ok (some digits) c.advance
  | _ => .ok none c

/-- The operations that stand behind the variable they assign to. -/
inductive Assignment where
  | concat
  | tensor
  | inverse
deriving DecidableEq, Repr

/-- Reads the operation of an assignment. -/
def assignment : Production Assignment :=
  accept
    (fun
      | .keyword .concat => some .concat
      | .keyword .tensor => some .tensor
      | .keyword .inverse => some .inverse
      | _ => none)
    .assignment

/-- Reads the operands of an assignment to `target`. -/
def operands (target : String) : Assignment → Production Instruction
  | .concat => do
    let left ← matrix
    let right ← matrix
    return .concat target left right
  | .tensor => do
    let left ← matrix
    let right ← matrix
    return .tensor target left right
  | .inverse => return .inverse target (← matrix)

/-- Reads what stands behind `INITIALIZE`. -/
def loadOperands : Production Instruction := do
  let target ← register .loadedRegister
  return .load target (← optionalBits)

/-- Reads what stands behind `SELECT`. -/
def selectOperands : Production Instruction := do
  let target ← name .selectTarget
  let source ← register .selectedRegister
  let offset ← number .offset
  return .select target source offset (← number .count)

/-- Reads what stands behind `APPLY`. -/
def applyOperands : Production Instruction := do
  let operator ← matrix
  return .apply operator (← register .appliedRegister)

/-- Reads what stands behind `MEASURE`. -/
def measureOperands : Production Instruction := do
  let source ← register .measuredRegister
  return .measure source (← name .measureTarget)

/-- Reads what stands behind the variable of an assignment. -/
def assignmentTo (target : String) : Production Instruction := do
  operands target (← assignment)

/-- Reads one instruction, and no more. Its first token decides which one. -/
def instruction : Production Instruction := fun c =>
  match c.current.kind with
  | .keyword .load => loadOperands c.advance
  | .keyword .select => selectOperands c.advance
  | .keyword .apply => applyOperands c.advance
  | .keyword .measure => measureOperands c.advance
  | .name target => assignmentTo target c.advance
  | .endOfInput => refuse .instruction c
  | found => .error ⟨.noInstruction found, c.current.position⟩ c

/-- Reads one instruction and asks that the tokens end behind it. -/
def sentence : Production Instruction := fun c =>
  match instruction c with
  | .ok i after =>
    if after.current.isEnd then .ok i after
    else .error ⟨.trailing after.current.kind, after.current.position⟩ after
  | .error e after => .error e after

end Production

/-- Reads a token list as one instruction. -/
def readTokens (tokens : List Token) : Except SyntaxError Instruction :=
  match Production.sentence (.ofTokens tokens) with
  | .ok i _ => .ok i
  | .error e _ => .error e

/-- The tokens and diagnostics of a source text, which is brought into normal form first. -/
def tokenizeSource [NormalForm] (source : String) : List Token × List Diagnostic :=
  tokenize (NormalForm.normalize source.toList)

/-- Reads a source text as one instruction, with the diagnostics of its tokens. Rejected stretches
    are reported and passed over; they do not keep the rest from being read. -/
def readLine [NormalForm] (source : String) : Except SyntaxError Instruction × List Diagnostic :=
  let (tokens, diagnostics) := tokenizeSource source
  (readTokens tokens, diagnostics)

end QuantumAssembler
