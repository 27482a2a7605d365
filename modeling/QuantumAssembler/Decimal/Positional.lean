import QuantumAssembler.Decimal.Shortest

/-!
Module: QuantumAssembler.Decimal.Positional
Purpose: The text of a double: the shortest decimal that reads back, always in positional notation.
  A whole number has no decimal point, a number below one has a leading nought, and no exponent is
  ever written. An undefined result has no sign.
Main exports: positional, floatText
-/

namespace QuantumAssembler.Decimal

/-- The digits of a natural number. -/
def digitsOf (n : Nat) : List Char :=
  Nat.toDigits 10 n

/-- The decimal `digits * 10 ^ exponent` in positional notation. -/
def positional (d : Scaled) : List Char :=
  let row := digitsOf d.digits
  if 0 ≤ d.exponent then row ++ List.replicate d.exponent.toNat '0'
  else
    let places := (-d.exponent).toNat
    if places < row.length then
      row.take (row.length - places) ++ '.' :: row.drop (row.length - places)
    else '0' :: '.' :: (List.replicate (places - row.length) '0' ++ row)

/-- The text of a positive or zero finite double. -/
def magnitude (mantissa : Nat) (exponent : Int) : List Char :=
  if mantissa = 0 then ['0'] else positional (shortest mantissa exponent)

/-- The text of a double. -/
def floatText (x : Float) : List Char :=
  match Binary.ofFloat x with
  | .finite negative mantissa exponent =>
    if negative then '-' :: magnitude mantissa exponent else magnitude mantissa exponent
  | .infinite negative => (if negative then "-inf" else "inf").toList
  | .undefined => "NaN".toList

end QuantumAssembler.Decimal
