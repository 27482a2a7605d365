import QuantumAssembler.Decimal.Positional
import QuantumAssembler.Decimal.Reading
import QuantumAssembler.Scalar.Basic
import QuantumAssembler.Text.WhiteSpace

/-!
Module: QuantumAssembler.Scalar.Written
Purpose: The text of a scalar and its reading. A zero part is left out, an imaginary coefficient of
  one is written as a bare `i`, and the sign between the parts is that of the imaginary part.
  Reading cuts the text in front of its last sign that is neither first nor the sign of an
  exponent.
Main exports: Spelled, Scalar.spell, Scalar.read?, Scalar.ofText
-/

namespace QuantumAssembler

universe u

/-- Parts that are written as decimal literals. Only finite parts are read. -/
class Spelled (α : Type u) where
  spell : α → List Char
  read? : List Char → Option α

instance : Spelled Float where
  spell := Decimal.floatText
  read? := Decimal.readFinite?

namespace Scalar

variable {α : Type u}

/-! ### Writing -/

section Writing

variable [Zero α] [One α] [Neg α] [BEq α] [LT α] [DecidableLT α] [Spelled α]

/-- A part without its sign. -/
def unsigned (x : α) : α :=
  if x < 0 then -x else x

/-- The coefficient in front of the imaginary unit: nothing for one. -/
def coefficient (x : α) : List Char :=
  if unsigned x == 1 then [] else Spelled.spell (unsigned x)

/-- The text of a scalar. -/
def spell (z : Scalar α) : List Char :=
  if z.re != 0 then
    if z.im == 0 then Spelled.spell z.re
    else Spelled.spell z.re ++ (if 0 < z.im then '+' else '-') :: (coefficient z.im ++ ['i'])
  else if z.im != 0 then
    (if z.im < 0 then ['-'] else []) ++ coefficient z.im ++ ['i']
  else ['0']

/-- The text of a scalar as a string. -/
def text (z : Scalar α) : String :=
  String.ofList z.spell

end Writing

/-! ### Reading -/

/-- The two signs of literals. -/
def isSign (c : Char) : Bool :=
  c == '+' || c == '-'

/-- The letters behind which a sign belongs to an exponent. -/
def isExponentMark (c : Char) : Bool :=
  c == 'e' || c == 'E'

/-- Cuts a text, which stands behind the character `previous`, in front of its last sign that does
    not belong to an exponent. -/
def cutBehind (previous : Char) : List Char → Option (List Char × List Char)
  | [] => none
  | c :: rest =>
    match cutBehind c rest with
    | some (front, back) => some (c :: front, back)
    | none => if isSign c && !isExponentMark previous then some ([], c :: rest) else none

/-- Cuts a text in front of its last sign that is neither first nor belongs to an exponent. -/
def cutAtSign : List Char → Option (List Char × List Char)
  | [] => none
  | c :: rest => (cutBehind c rest).map fun (front, back) => (c :: front, back)

section Reading

variable [Zero α] [One α] [Neg α] [Spelled α]

/-- Reads the coefficient of the imaginary unit: nothing or a lone sign stands for one. -/
def readCoefficient? : List Char → Option α
  | [] => some 1
  | ['+'] => some 1
  | ['-'] => some (-1)
  | cs => Spelled.read? cs

/-- Reads what stands in front of a final `i`. -/
def readImaginary? (body : List Char) : Option (Scalar α) :=
  match cutAtSign body with
  | some (front, back) =>
    match readCoefficient? back, Spelled.read? front with
    | some im, some re => some ⟨re, im⟩
    | _, _ => none
  | none => (readCoefficient? body).map fun im => ⟨0, im⟩

/-- Reads a scalar; white space around it is passed over. -/
def read? (cs : List Char) : Option (Scalar α) :=
  let body := Text.trim cs
  if body.getLast? = some 'i' then readImaginary? body.dropLast
  else (Spelled.read? body).map ofReal

/-- Reads a scalar from a string. -/
def ofText (spelling : String) : Except AlgebraFailure (Scalar α) :=
  match read? spelling.toList with
  | some z => .ok z
  | none => .error (.invalidOperand (.notAScalar spelling))

end Reading

end Scalar

end QuantumAssembler
