/-!
Module: QuantumAssembler.Decimal.Binary
Purpose: A double taken apart. A finite double is a sign and a natural number times a power of two;
  the remaining bit patterns stand for the two infinities and for undefined results.
Main exports: Binary, Binary.ofFloat
-/

namespace QuantumAssembler.Decimal

/-- What a double stands for. -/
inductive Binary where
  /-- The number `mantissa * 2 ^ exponent`, negated if `negative`; zero has both signs. -/
  | finite (negative : Bool) (mantissa : Nat) (exponent : Int)
  | infinite (negative : Bool)
  | undefined
deriving DecidableEq, Repr

namespace Binary

/-- The number of bits that a double stores of its mantissa. -/
def fractionBits : Nat := 52

/-- The exponent of the smallest positive double. -/
def leastExponent : Int := -1074

/-- The exponent field shared by infinities and undefined results. -/
def topField : Nat := 2047

/-- Takes apart a bit pattern: one sign bit, eleven bits of exponent, and the fraction. The smallest
    exponent field leaves out the leading bit of the mantissa. -/
def ofBits (bits : Nat) : Binary :=
  let fraction := bits % Nat.pow 2 fractionBits
  let field := bits / Nat.pow 2 fractionBits % (topField + 1)
  let negative := bits / Nat.pow 2 63 % 2 == 1
  if field = topField then
    if fraction = 0 then infinite negative else undefined
  else if field = 0 then finite negative fraction leastExponent
  else finite negative (Nat.pow 2 fractionBits + fraction) (leastExponent + (field - 1 : Nat))

/-- Takes apart a double. -/
def ofFloat (x : Float) : Binary :=
  ofBits x.toBits.toNat

end Binary

end QuantumAssembler.Decimal
