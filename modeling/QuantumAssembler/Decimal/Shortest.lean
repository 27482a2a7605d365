import QuantumAssembler.Decimal.Binary

/-!
Module: QuantumAssembler.Decimal.Shortest
Purpose: The decimal with the fewest digits that reads back as a given double, and of those the one
  nearest to it. All comparisons are exact, on natural numbers. The reals that read back as a double
  reach half way to its two neighbours; the two ends belong to it if its mantissa is even.
Main exports: Scaled, Interval, Interval.ofBinary, shortest
-/

namespace QuantumAssembler.Decimal

/-- The number `digits * 10 ^ exponent`. -/
structure Scaled where
  digits : Nat
  exponent : Int
deriving DecidableEq, Repr

/-- A positive double and the reals that read back as it, in units of `1 / unit`: they lie between
    `low` and `high`, around `value`. -/
structure Interval where
  low : Nat
  value : Nat
  high : Nat
  unit : Nat
  /-- Whether the two ends read back as the double too. -/
  closed : Bool
deriving DecidableEq, Repr

namespace Interval

/-- The interval of the double `mantissa * 2 ^ exponent`. Below a power of two the doubles are
    twice as dense, so there the lower end is only a quarter of a step away; the smallest exponent
    is the exception. -/
def ofBinary (mantissa : Nat) (exponent : Int) : Interval :=
  let dense := mantissa == Nat.pow 2 Binary.fractionBits && Binary.leastExponent < exponent
  let step := if dense then 1 else 2
  let quarter := exponent - 2
  let factor := Nat.pow 2 quarter.toNat
  ⟨(4 * mantissa - step) * factor, 4 * mantissa * factor, (4 * mantissa + 2) * factor,
    Nat.pow 2 (-quarter).toNat, mantissa % 2 == 0⟩

/-- Whether `numerator / unit` reads back as the double. -/
def holds (i : Interval) (numerator : Nat) : Bool :=
  if i.closed then i.low ≤ numerator && numerator ≤ i.high
  else i.low < numerator && numerator < i.high

/-- The best multiple of `10 ^ exponent` that reads back as the double, if there is one: of the two
    multiples next to the value the nearer, and the larger if both are equally near. -/
def onGrid? (i : Interval) (exponent : Int) : Option Scaled :=
  let up := Nat.pow 10 exponent.toNat
  let down := Nat.pow 10 (-exponent).toNat
  let floor := i.value * down / (i.unit * up)
  let below := floor * (i.unit * up)
  let above := (floor + 1) * (i.unit * up)
  let scaled : Interval := ⟨i.low * down, i.value * down, i.high * down, i.unit, i.closed⟩
  match scaled.holds below, scaled.holds above with
  | true, true =>
    if scaled.value - below < above - scaled.value then some ⟨floor, exponent⟩
    else some ⟨floor + 1, exponent⟩
  | true, false => some ⟨floor, exponent⟩
  | false, true => some ⟨floor + 1, exponent⟩
  | false, false => none

/-- Tries finer and finer grids from `10 ^ exponent` on, as many as the first number says. -/
def firstHit (i : Interval) : Nat → Int → Scaled
  | 0, exponent => ⟨i.value / i.unit, max exponent 0⟩
  | grids + 1, exponent =>
    match i.onGrid? exponent with
    | some hit => hit
    | none => firstHit i grids (exponent - 1)

end Interval

/-- An exponent of ten above `mantissa * 2 ^ exponent`, by at most two. -/
def topExponent (mantissa : Nat) (exponent : Int) : Int :=
  (exponent + mantissa.log2 + 1) * 30103 / 100000 + 1

/-- The shortest decimal that reads back as the positive double `mantissa * 2 ^ exponent`. Its first
    grid is coarser than the value, and seventeen digits always tell doubles apart. -/
def shortest (mantissa : Nat) (exponent : Int) : Scaled :=
  (Interval.ofBinary mantissa exponent).firstHit 20 (topExponent mantissa exponent)

end QuantumAssembler.Decimal
