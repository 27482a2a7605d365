import QuantumAssembler.Scalar.Basic

/-!
Module: QuantumAssembler.Scalar.Polar
Purpose: Scalars with floating-point parts in polar form. The angle runs from nought up to a full
  turn and is found from an arctangent by quadrant.
Main exports: Scalar.angleBy, Scalar.angle, Scalar.polar, Scalar.ofPolar
-/

namespace QuantumAssembler.Scalar

/-- Half a turn. -/
def halfTurn : Float := 3.141592653589793

/-- A quarter of a turn. -/
def quarterTurn : Float := 1.5707963267948966

/-- The angle of a scalar, with the given arctangent. On the imaginary axis it is a quarter or three
    quarters of a turn, by the sign of the imaginary part; the angle of zero is nought. -/
def angleBy (arctangent : Float → Float) (z : Scalar Float) : Float :=
  if z.re == 0.0 then
    if z.im > 0.0 then quarterTurn
    else if z.im < 0.0 then 3.0 * quarterTurn
    else 0.0
  else
    let base := arctangent (z.im / z.re)
    if z.re < 0.0 then base + halfTurn
    else if z.im < 0.0 then base + 2.0 * halfTurn
    else base

/-- The angle of a scalar. -/
def angle (z : Scalar Float) : Float :=
  z.angleBy Float.atan

/-- Modulus and angle. -/
def polar (z : Scalar Float) : Float × Float :=
  (z.modulus, z.angle)

/-- The scalar with a given modulus and angle. -/
def ofPolar (modulus angle : Float) : Scalar Float :=
  ⟨modulus * angle.cos, modulus * angle.sin⟩

end QuantumAssembler.Scalar
