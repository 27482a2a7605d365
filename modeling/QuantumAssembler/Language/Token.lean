import QuantumAssembler.Language.Keyword
import QuantumAssembler.Text.Position

/-!
Module: QuantumAssembler.Language.Token
Purpose: The tokens of the assembly language, each with its spelling and its place in the text.
Main exports: TokenKind, Token, Token.text
-/

namespace QuantumAssembler

/-- What a token is, with the value that it carries. -/
inductive TokenKind where
  /-- A register literal, `R` and a number. -/
  | register (index : Nat)
  /-- An identity matrix literal, `I` and its size. -/
  | identity (size : Nat)
  /-- A bit-string literal, without its brackets. -/
  | bits (digits : String)
  /-- A bare number. -/
  | number (value : Nat)
  /-- A variable name. -/
  | name (spelling : String)
  | keyword (k : Keyword)
  | endOfInput
deriving DecidableEq, Repr

namespace TokenKind

/-- The class of a token as messages name it. -/
def className : TokenKind → String
  | register _ => "REGISTER"
  | identity _ => "IDENTITY_MATRIX"
  | bits _ => "BITSTRING"
  | number _ => "DIGIT"
  | name _ => "VARIABLE"
  | keyword k => k.word
  | endOfInput => "end of input"

/-- The class of a token together with its value, if it carries one. -/
def text : TokenKind → String
  | register n => "REGISTER(" ++ toString n ++ ")"
  | identity n => "IDENTITY_MATRIX(" ++ toString n ++ ")"
  | bits digits => "BITSTRING(\"" ++ digits ++ "\")"
  | number n => "DIGIT(" ++ toString n ++ ")"
  | name spelling => "VARIABLE('" ++ spelling ++ "')"
  | keyword k => k.word
  | endOfInput => "end of input"

end TokenKind

/-- A token: its kind, its spelling in the text, and the place of its first character. -/
structure Token where
  kind : TokenKind
  lexeme : String
  position : Position
deriving DecidableEq, Repr

namespace Token

/-- The token that ends every token list. -/
def atEnd (p : Position) : Token :=
  ⟨.endOfInput, "", p⟩

/-- Whether this token ends the input. -/
def isEnd (t : Token) : Bool :=
  t.kind == .endOfInput

/-- A token as listings write it. -/
def text (t : Token) : String :=
  t.kind.text ++ " @" ++ t.position.text

end Token

end QuantumAssembler
