/-!
Module: QuantumAssembler.Decimal.Reading
Purpose: Rows of decimal digits and the numbers that they write, and the reading of a finite double
  from a decimal literal. A literal is an optional sign, digits with at most one decimal point among
  them or at either end, and an optional exponent: the letter `e` or `E`, an optional sign, and
  digits. It must have at least one digit in front of the exponent. Its value is rounded to the
  nearest double; a literal beyond the largest double is refused.
Main exports: valueOf, Literal, Literal.ofChars?, Literal.value, readFinite?
-/

namespace QuantumAssembler.Decimal

/-! ### Digits -/

/-- The value of one decimal digit. -/
def digitValue (d : Char) : Nat :=
  d.toNat - '0'.toNat

/-- The value of a row of decimal digits, most significant digit first. -/
def valueOf (digits : List Char) : Nat :=
  digits.foldl (fun value d => 10 * value + digitValue d) 0

/-! ### Literals -/

/-- A decimal literal taken apart. -/
structure Literal where
  negative : Bool
  /-- The digits in front of the decimal point. -/
  whole : List Char
  /-- The digits behind the decimal point. -/
  fraction : List Char
  exponent : Int
deriving DecidableEq, Repr

namespace Literal

/-- Takes off a sign; the answer says whether it was a minus. -/
def takeSign : List Char → Bool × List Char
  | '-' :: rest => (true, rest)
  | '+' :: rest => (false, rest)
  | cs => (false, cs)

/-- Reads an exponent, which has to go to the end of the text; an empty text is the exponent
    nought. -/
def exponent? : List Char → Option Int
  | [] => some 0
  | c :: rest =>
    if c = 'e' ∨ c = 'E' then
      let (negative, digits) := takeSign rest
      if digits ≠ [] ∧ digits.all Char.isDigit then
        some (if negative then -(valueOf digits : Int) else valueOf digits)
      else none
    else none

/-- Takes apart a literal. -/
def ofChars? (cs : List Char) : Option Literal :=
  let (negative, body) := takeSign cs
  let whole := body.takeWhile Char.isDigit
  let (fraction, rest) :=
    match body.dropWhile Char.isDigit with
    | '.' :: rest => (rest.takeWhile Char.isDigit, rest.dropWhile Char.isDigit)
    | rest => ([], rest)
  if whole = [] ∧ fraction = [] then none
  else (exponent? rest).map fun exponent => ⟨negative, whole, fraction, exponent⟩

/-- The digits of a literal as one whole number. -/
def significand (l : Literal) : Nat :=
  valueOf (l.whole ++ l.fraction)

/-- The power of ten that the significand counts. -/
def scale (l : Literal) : Int :=
  l.exponent - l.fraction.length

/-- Numbers from this power of ten on are beyond the largest double. -/
def topScale : Int := 310

/-- Numbers below this power of ten are nearer to zero than to the smallest double. -/
def bottomScale : Int := -330

/-- The double nearest to the literal without its sign; infinite if the literal is beyond all
    doubles. The size is judged first, so that no literal is ever written out in full. -/
def magnitude (l : Literal) : Float :=
  let size := l.scale + (Nat.toDigits 10 l.significand).length
  if l.significand = 0 ∨ size < bottomScale then 0.0
  else if topScale < size then 1.0 / 0.0
  else Float.ofScientific l.significand (l.scale < 0) l.scale.natAbs

/-- The double nearest to the literal. -/
def value (l : Literal) : Float :=
  if l.negative then -l.magnitude else l.magnitude

end Literal

/-- Reads a finite double. -/
def readFinite? (cs : List Char) : Option Float :=
  match Literal.ofChars? cs with
  | some l => if l.value.isFinite then some l.value else none
  | none => none

end QuantumAssembler.Decimal
