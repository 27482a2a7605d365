import QuantumAssembler.Proofs.Decimal.Arctangent
import QuantumAssembler.Scalar.Polar

/-!
Module: QuantumAssembler.Proofs.Scalar.Angle
Purpose: The range of angles. With a correctly rounded arctangent the angle of a finite scalar is never
  below nought and never above a full turn. It is less than a full turn in all quadrants but the
  fourth, where it is rounded up to a full turn next to the real axis.
Main exports: Scalar.steepestSlope, Scalar.arctangent_lt_iff, Scalar.add_full_lt_iff,
  Scalar.angleBy_left, Scalar.angleBy_upper, Scalar.angleBy_lower, Scalar.angleBy_range
-/

namespace QuantumAssembler.Scalar

open Decimal Float.Model Float.Model.UnpackedFloat

/-- The steepest slope below the real axis for which the angle is rounded to a full turn. -/
def steepestSlope : Float := -4.440892098500626e-16

/-! ### Numbers -/

/-- Turns, bounds and slopes, taken apart. The double in front of a full turn and the one behind the
    steepest slope are among them, and so is the sum of these two turns, a tie that the even mantissa
    of the full turn wins. -/
theorem constants_parts :
    Binary.ofFloat (2.0 * halfTurn) = .finite false 7074237752028440 (-50) ∧
    Binary.ofFloat 6.283185307179585 = .finite false 7074237752028439 (-50) ∧
    Binary.ofFloat (3.0 * quarterTurn) = .finite false 5305678314021330 (-50) ∧
    Binary.ofFloat halfTurn = .finite false 7074237752028440 (-51) ∧
    Binary.ofFloat quarterTurn = .finite false 7074237752028440 (-52) ∧
    Binary.ofFloat 6 = .finite false 6755399441055744 (-50) ∧
    Binary.ofFloat 2 = .finite false 4503599627370496 (-51) ∧
    Binary.ofFloat (-2) = .finite true 4503599627370496 (-51) ∧
    Binary.ofFloat steepestSlope = .finite true 4503599627370496 (-103) ∧
    Binary.ofFloat (-4.440892098500627e-16) = .finite true 4503599627370497 (-103) ∧
    Binary.ofFloat (steepestSlope + 2.0 * halfTurn) = Binary.ofFloat (2.0 * halfTurn) := by
  decide +kernel

theorem standsFor_full : StandsFor (2.0 * halfTurn) (7074237752028440 / 2 ^ 50) := by
  obtain ⟨parts, -⟩ := constants_parts
  exact standsFor_of_parts parts (by norm_num)

theorem standsFor_before_full : StandsFor 6.283185307179585 (7074237752028439 / 2 ^ 50) := by
  obtain ⟨-, parts, -⟩ := constants_parts
  exact standsFor_of_parts parts (by norm_num)

theorem standsFor_three_quarters :
    StandsFor (3.0 * quarterTurn) (5305678314021330 / 2 ^ 50) := by
  obtain ⟨-, -, parts, -⟩ := constants_parts
  exact standsFor_of_parts parts (by norm_num)

theorem standsFor_half : StandsFor halfTurn (7074237752028440 / 2 ^ 51) := by
  obtain ⟨-, -, -, parts, -⟩ := constants_parts
  exact standsFor_of_parts parts (by norm_num)

theorem standsFor_quarter : StandsFor quarterTurn (7074237752028440 / 2 ^ 52) := by
  obtain ⟨-, -, -, -, parts, -⟩ := constants_parts
  exact standsFor_of_parts parts (by norm_num)

theorem standsFor_six : StandsFor 6 6 := by
  obtain ⟨-, -, -, -, -, parts, -⟩ := constants_parts
  exact standsFor_of_parts parts (by norm_num)

theorem standsFor_two : StandsFor 2 2 := by
  obtain ⟨-, -, -, -, -, -, parts, -⟩ := constants_parts
  exact standsFor_of_parts parts (by norm_num)

theorem standsFor_minus_two : StandsFor (-2) (-2) := by
  obtain ⟨-, -, -, -, -, -, -, parts, -⟩ := constants_parts
  exact standsFor_of_parts parts (by norm_num)

theorem standsFor_steepest : StandsFor steepestSlope (-(1 / 2 ^ 51)) := by
  obtain ⟨-, -, -, -, -, -, -, -, parts, -⟩ := constants_parts
  exact standsFor_of_parts parts (by norm_num)

theorem standsFor_steeper : StandsFor (-4.440892098500627e-16) (-((2 ^ 52 + 1) / 2 ^ 103)) := by
  obtain ⟨-, -, -, -, -, -, -, -, -, parts, -⟩ := constants_parts
  exact standsFor_of_parts parts (by norm_num)

theorem numberOf_tie :
    numberOf (steepestSlope + 2.0 * halfTurn) = numberOf (2.0 * halfTurn) := by
  obtain ⟨-, -, -, -, -, -, -, -, -, -, same⟩ := constants_parts
  exact congrArg Binary.number same

/-! ### Slopes -/

section Slopes

variable {arctangent : Float → Float} {x : Float} {s : Sign}

/-- A rounded arctangent is at most two away from zero, on the side on which its argument lies. -/
theorem arctangent_within (rounded : IsArctangent arctangent) (sided : IsSided s x) :
    (arctangent x).isFinite = true ∧ 0 ≤ signUnit s * numberOf (arctangent x) ∧
      |numberOf (arctangent x)| ≤ 2 := by
  have nearest := rounded x sided.isNaN
  obtain ⟨side, quarter⟩ := sided.arctangentOf
  have small : Real.pi / 2 ≤ 2 := by linarith [Real.pi_lt_four]
  cases s with
  | positive =>
      rw [signUnit, Rat.cast_one, one_mul] at side quarter
      have low := nearest.ge standsFor_zero (by rw [Rat.cast_zero]; exact side)
      have high := nearest.le standsFor_two (by rw [Rat.cast_ofNat]; linarith)
      rw [signUnit, one_mul, abs_of_nonneg low]
      exact ⟨nearest.1, low, high⟩
  | negative =>
      rw [signUnit, Rat.cast_neg, Rat.cast_one, neg_one_mul] at side quarter
      have high := nearest.le standsFor_zero (by rw [Rat.cast_zero]; linarith)
      have low := nearest.ge standsFor_minus_two (by rw [Rat.cast_neg, Rat.cast_ofNat]; linarith)
      rw [signUnit, neg_one_mul, abs_of_nonpos high]
      exact ⟨nearest.1, by linarith, by linarith⟩

/-- Below zero an arctangent is above its argument. -/
theorem le_arctan_of_nonpos {r : ℝ} (nonpos : r ≤ 0) : r ≤ Real.arctan r := by
  have upper : Real.arctan (-r) ≤ Real.tan (Real.arctan (-r)) :=
    Real.le_tan (Real.arctan_nonneg.mpr (neg_nonneg.mpr nonpos)) (Real.arctan_lt_pi_div_two _)
  rw [Real.tan_arctan, Real.arctan_neg] at upper
  linarith

/-- A steeper slope than the steepest is at least one unit of the last place away from it. -/
theorem le_steeper (finite : x.isFinite = true) (steeper : numberOf x < -(1 / 2 ^ 51)) :
    numberOf x ≤ -((2 ^ 52 + 1) / 2 ^ 103) := by
  have double : IsDouble (2 ^ 52) (-103) :=
    ⟨by decide, by decide, by decide, by decide, .inl (by decide)⟩
  have less : ((2 ^ 52 : Nat) * 2 ^ (-103 : Int) : ℚ) < signUnit .negative * numberOf x := by
    rw [signUnit, neg_one_mul]
    norm_num at steeper ⊢
    linarith
  have next := step_up_sided double finite less
  rw [signUnit, neg_one_mul] at next
  norm_num at next ⊢
  linarith

/-- A steeper slope than the steepest has an arctangent that is nearer to the next double. -/
theorem arctangentOf_lt (sided : IsSided .negative x) (steeper : ¬ steepestSlope ≤ x) :
    arctangentOf x < -((2 ^ 53 + 1) / 2 ^ 104) := by
  rcases sided with ⟨finite, -⟩ | parts
  · rw [le_iff_numberOf standsFor_steepest.1 finite, not_le, standsFor_steepest.2] at steeper
    have slope := (Rat.cast_le (K := ℝ)).mpr (le_steeper finite steeper)
    push_cast at slope
    have below : (2 ^ 53 + 1 : ℝ) / 2 ^ 104 < Real.arctan ((2 ^ 52 + 1) / 2 ^ 103) :=
      lt_arctan (by norm_num) (by norm_num) (by norm_num)
    calc arctangentOf x = Real.arctan (numberOf x) := arctangentOf_of_isFinite finite
      _ ≤ Real.arctan (-((2 ^ 52 + 1) / 2 ^ 103)) := Real.arctan_mono slope
      _ < -((2 ^ 53 + 1) / 2 ^ 104) := by
          rw [Real.arctan_neg]
          exact neg_lt_neg below
  · rw [arctangentOf_of_infinity parts, signUnit, Rat.cast_neg, Rat.cast_one, neg_one_mul]
    have small : (2 ^ 53 + 1 : ℝ) / 2 ^ 104 < 1 := by norm_num
    linarith [Real.pi_gt_three]

/-- Slopes and their rounded arctangents are on the same side of the steepest slope. -/
theorem arctangent_lt_iff (rounded : IsArctangent arctangent) (sided : IsSided .negative x) :
    numberOf (arctangent x) < -(1 / 2 ^ 51) ↔ ¬ steepestSlope ≤ x := by
  have nearest := rounded x sided.isNaN
  constructor
  · intro less flat
    apply less.not_ge
    rcases sided with ⟨finite, side⟩ | parts
    · rw [signUnit, neg_one_mul, Left.nonneg_neg_iff] at side
      rw [le_iff_numberOf standsFor_steepest.1 finite, standsFor_steepest.2] at flat
      have nonpos : (numberOf x : ℝ) ≤ 0 := by exact_mod_cast side
      rw [arctangentOf_of_isFinite finite] at nearest
      exact nearest.ge standsFor_steepest (le_trans (Rat.cast_le.mpr flat)
        (le_arctan_of_nonpos nonpos))
    · exact absurd flat (not_le_of_infinity standsFor_steepest.1 parts)
  · intro steeper
    apply nearest.lt_of_lt_middle standsFor_steeper (by norm_num)
    have above := arctangentOf_lt sided steeper
    norm_num at above ⊢
    exact above

end Slopes

/-! ### Angles -/

section Angles

variable {arctangent : Float → Float} {z : Scalar Float}

/-- Sums of a rounded arctangent and a turn are nearest to the exact ones. -/
theorem sum_nearest {x y : Float} {q : ℚ} (finite : x.isFinite = true) (near : |numberOf x| ≤ 2)
    (turn : StandsFor y q) (nonneg : 0 ≤ q) (small : q ≤ 7) :
    IsNearestDouble ((numberOf x + q : ℚ) : ℝ) (x + y) := by
  rw [← turn.2] at nonneg small ⊢
  apply isNearestDouble_add finite turn.1
  calc |numberOf x + numberOf y| ≤ |numberOf x| + |numberOf y| := abs_add_le _ _
    _ < 2 ^ (4 : Int) := by rw [abs_of_nonneg nonneg]; norm_num; linarith
    _ ≤ 2 ^ (1023 : Int) := zpow_le_zpow_right₀ one_le_two (by decide)

/-- Half a unit of the last place in front of a full turn is a tie. -/
theorem add_full_of_tie {x : Float} (tie : StandsFor x (-(1 / 2 ^ 51))) :
    numberOf (x + 2.0 * halfTurn) = 7074237752028440 / 2 ^ 50 := by
  have twin : (x == steepestSlope) = true := by
    rw [beq_iff_numberOf tie.1 standsFor_steepest.1, tie.2, standsFor_steepest.2]
  have same : x = steepestSlope := by
    rcases eq_of_beq_double twin with same | ⟨zero, -⟩
    · exact same
    · rw [beq_zero_iff_numberOf tie.1, tie.2] at zero
      norm_num at zero
  rw [same, numberOf_tie, standsFor_full.2]

/-- A full turn less a little more than half a unit of its last place is rounded to less than a full
    turn, and less no more than that to a full turn. -/
theorem add_full_lt_iff {x : Float} (finite : x.isFinite = true)
    (nearest : IsNearestDouble ((numberOf x + 7074237752028440 / 2 ^ 50 : ℚ) : ℝ)
      (x + 2.0 * halfTurn)) :
    numberOf (x + 2.0 * halfTurn) < 7074237752028440 / 2 ^ 50 ↔ numberOf x < -(1 / 2 ^ 51) := by
  constructor
  · intro less
    by_contra flat
    apply less.not_ge
    rcases (not_lt.mp flat).eq_or_lt with same | flatter
    · exact (add_full_of_tie ⟨finite, same.symm⟩).ge
    · -- No double lies between a full turn and the double in front of it.
      have above := nearest.lt_of_middle_lt standsFor_full
        (show (7074237752028439 / 2 ^ 50 : ℚ) < _ by norm_num) (Rat.cast_lt.mpr (by linarith))
      have sparse : IsDouble 7074237752028439 (-50) :=
        ⟨by decide, by decide, by decide, by decide, .inl (by decide)⟩
      have next := step_up_sided sparse nearest.1 (s := .positive)
        (by rw [signUnit, one_mul]; norm_num at above ⊢; exact above)
      rw [signUnit, one_mul] at next
      norm_num at next ⊢
      exact next
  · intro steeper
    exact nearest.lt_of_lt_middle standsFor_before_full (by norm_num)
      (Rat.cast_lt.mpr (by linarith))

/-- An angle that is at least nought and less than a full turn. -/
def IsProper (x : Float) : Prop :=
  x.isFinite = true ∧ 0 ≤ numberOf x ∧ numberOf x < 7074237752028440 / 2 ^ 50

/-- What proper angles and full turns have in common, where the latter are told by a condition. -/
def IsWithin (x : Float) (full : Prop) : Prop :=
  x.isFinite = true ∧ 0 ≤ numberOf x ∧ numberOf x ≤ 7074237752028440 / 2 ^ 50 ∧
    (numberOf x < 7074237752028440 / 2 ^ 50 ↔ ¬ full)

theorem IsProper.isWithin {x : Float} (proper : IsProper x) {full : Prop} (out : ¬ full) :
    IsWithin x full := by
  obtain ⟨finite, nonneg, less⟩ := proper
  exact ⟨finite, nonneg, less.le, iff_of_true less out⟩

theorem isProper_of_le_six {x : Float} (finite : x.isFinite = true) (nonneg : 0 ≤ numberOf x)
    (most : numberOf x ≤ 6) : IsProper x :=
  ⟨finite, nonneg, most.trans_lt (by norm_num)⟩

theorem StandsFor.isProper {x : Float} {q : ℚ} (stands : StandsFor x q) (nonneg : 0 ≤ q)
    (most : q ≤ 6) : IsProper x := by
  rw [← stands.2] at nonneg most
  exact isProper_of_le_six stands.1 nonneg most

theorem angleBy_axis (axis : (z.re == 0) = true) : IsProper (z.angleBy arctangent) := by
  have branch : z.angleBy arctangent =
      if z.im > 0 then quarterTurn else if z.im < 0 then 3.0 * quarterTurn else 0 := if_pos axis
  rw [branch]
  split
  · exact StandsFor.isProper standsFor_quarter (by norm_num) (by norm_num)
  · split
    · exact StandsFor.isProper standsFor_three_quarters (by norm_num) (by norm_num)
    · exact StandsFor.isProper standsFor_zero le_rfl (by norm_num)

theorem angleBy_off_axis (off : ¬ (z.re == 0) = true) :
    z.angleBy arctangent =
      if z.re < 0 then arctangent (z.im / z.re) + halfTurn
      else if z.im < 0 then arctangent (z.im / z.re) + 2.0 * halfTurn
      else arctangent (z.im / z.re) :=
  if_neg off

variable (rounded : IsArctangent arctangent) (finite : z.re.isFinite = true)
  (finiteToo : z.im.isFinite = true)

include finite in
theorem lt_zero_iff_numberOf : z.re < 0 ↔ numberOf z.re < 0 := by
  rw [lt_iff_numberOf finite rfl, numberOf_zero]

include finite finiteToo in
/-- The slope of a scalar lies on the side of zero that its parts tell. -/
theorem isSided_slope {s : Sign} (off : numberOf z.re ≠ 0)
    (side : 0 ≤ signUnit s * (numberOf z.im / numberOf z.re)) : IsSided s (z.im / z.re) :=
  (rounded_div finiteToo finite off).isSided side

include rounded finite finiteToo

theorem angleBy_left (left : numberOf z.re < 0) : IsProper (z.angleBy arctangent) := by
  obtain ⟨s, sided⟩ : ∃ s, IsSided s (z.im / z.re) := by
    rcases le_total 0 (numberOf z.im / numberOf z.re) with above | below
    · exact ⟨.positive, isSided_slope finite finiteToo left.ne (by rwa [signUnit, one_mul])⟩
    · refine ⟨.negative, isSided_slope finite finiteToo left.ne ?_⟩
      rwa [signUnit, neg_one_mul, Left.nonneg_neg_iff]
  obtain ⟨finiteBase, -, near⟩ := arctangent_within rounded sided
  have nearest := sum_nearest finiteBase near standsFor_half (by norm_num) (by norm_num)
  obtain ⟨low, high⟩ := abs_le.mp near
  rw [angleBy_off_axis ((beq_zero_iff_numberOf finite).not.mpr left.ne),
    if_pos ((lt_zero_iff_numberOf finite).mpr left)]
  exact isProper_of_le_six nearest.1 (nearest.ge standsFor_zero (Rat.cast_le.mpr (by linarith)))
    (nearest.le standsFor_six (Rat.cast_le.mpr (by linarith)))

theorem angleBy_upper (right : 0 < numberOf z.re) (above : 0 ≤ numberOf z.im) :
    IsProper (z.angleBy arctangent) := by
  have sided : IsSided .positive (z.im / z.re) := by
    apply isSided_slope finite finiteToo right.ne'
    rw [signUnit, one_mul]
    exact div_nonneg above right.le
  obtain ⟨finiteBase, side, near⟩ := arctangent_within rounded sided
  rw [signUnit, one_mul] at side
  have upper : ¬ z.im < 0 := by
    rw [lt_iff_numberOf finiteToo rfl, numberOf_zero]
    exact above.not_gt
  rw [angleBy_off_axis ((beq_zero_iff_numberOf finite).not.mpr right.ne'),
    if_neg ((lt_zero_iff_numberOf finite).not.mpr right.not_gt), if_neg upper]
  exact isProper_of_le_six finiteBase side ((le_abs_self _).trans (near.trans (by norm_num)))

theorem angleBy_lower (right : 0 < numberOf z.re) (below : numberOf z.im < 0) :
    IsWithin (z.angleBy arctangent) (steepestSlope ≤ z.im / z.re) := by
  have sided : IsSided .negative (z.im / z.re) := by
    apply isSided_slope finite finiteToo right.ne'
    rw [signUnit, neg_one_mul, Left.nonneg_neg_iff]
    exact div_nonpos_of_nonpos_of_nonneg below.le right.le
  obtain ⟨finiteBase, side, near⟩ := arctangent_within rounded sided
  rw [signUnit, neg_one_mul, Left.nonneg_neg_iff] at side
  obtain ⟨low, -⟩ := abs_le.mp near
  have nearest := sum_nearest finiteBase near standsFor_full (by norm_num) (by norm_num)
  have lower : z.im < 0 := by
    rwa [lt_iff_numberOf finiteToo rfl, numberOf_zero]
  rw [angleBy_off_axis ((beq_zero_iff_numberOf finite).not.mpr right.ne'),
    if_neg ((lt_zero_iff_numberOf finite).not.mpr right.not_gt), if_pos lower]
  exact ⟨nearest.1, nearest.ge standsFor_zero (Rat.cast_le.mpr (by linarith)),
    nearest.le standsFor_full (Rat.cast_le.mpr (by linarith)),
    (add_full_lt_iff finiteBase nearest).trans (arctangent_lt_iff rounded sided)⟩

/-- Only the fourth quadrant reaches a full turn. -/
theorem angleBy_isWithin : IsWithin (z.angleBy arctangent)
    (0 < numberOf z.re ∧ numberOf z.im < 0 ∧ steepestSlope ≤ z.im / z.re) := by
  rcases lt_trichotomy (numberOf z.re) 0 with left | axis | right
  · exact (angleBy_left rounded finite finiteToo left).isWithin fun out => left.not_gt out.1
  · exact (angleBy_axis ((beq_zero_iff_numberOf finite).mpr axis)).isWithin fun out => out.1.ne' axis
  · rcases le_or_gt 0 (numberOf z.im) with above | below
    · exact (angleBy_upper rounded finite finiteToo right above).isWithin fun out =>
        above.not_gt out.2.1
    · obtain ⟨finiteAngle, nonneg, most, less_iff⟩ :=
        angleBy_lower rounded finite finiteToo right below
      refine ⟨finiteAngle, nonneg, most, less_iff.trans (not_congr ?_)⟩
      exact ⟨fun flat => ⟨right, below, flat⟩, fun full => full.2.2⟩

/-- The angle of a finite scalar is at least nought and at most a full turn. It is a full turn exactly
    for scalars with a positive real part and a negative imaginary part that are next to the real
    axis. -/
theorem angleBy_range :
    0 ≤ z.angleBy arctangent ∧ z.angleBy arctangent ≤ 2.0 * halfTurn ∧
      (z.angleBy arctangent < 2.0 * halfTurn ↔
        ¬ (0 < z.re ∧ z.im < 0 ∧ steepestSlope ≤ z.im / z.re)) := by
  obtain ⟨finiteAngle, nonneg, most, less_iff⟩ := angleBy_isWithin rounded finite finiteToo
  rw [le_iff_numberOf rfl finiteAngle, le_iff_numberOf finiteAngle standsFor_full.1,
    lt_iff_numberOf finiteAngle standsFor_full.1, lt_iff_numberOf rfl finite,
    lt_iff_numberOf finiteToo rfl, numberOf_zero, standsFor_full.2]
  exact ⟨nonneg, most, less_iff⟩

end Angles

/-- A scalar whose slope vanishes in front of a full turn, and one that is a little steeper than the
    steepest of these. -/
theorem angleBy_range_slopes :
    let z : Scalar Float := ⟨1e300, -1e-300⟩
    let w : Scalar Float := ⟨1, -4.440892098500627e-16⟩
    IsArctangent nearestArctangent ∧
      z.re.isFinite = true ∧ z.im.isFinite = true ∧ ¬ z.angleBy nearestArctangent < 2.0 * halfTurn ∧
      w.re.isFinite = true ∧ w.im.isFinite = true ∧ w.angleBy nearestArctangent < 2.0 * halfTurn := by
  intro z w
  have finite : z.re.isFinite = true := by decide +kernel
  have finiteToo : z.im.isFinite = true := by decide +kernel
  have steeper : w.re.isFinite = true := by decide +kernel
  have steeperToo : w.im.isFinite = true := by decide +kernel
  refine ⟨isArctangent_nearestArctangent, finite, finiteToo, ?_, steeper, steeperToo, ?_⟩
  · rw [(angleBy_range isArctangent_nearestArctangent finite finiteToo).2.2, not_not]
    decide +kernel
  · rw [(angleBy_range isArctangent_nearestArctangent steeper steeperToo).2.2]
    decide +kernel

/-- The angle of a scalar just below the real axis is not less than a full turn. -/
theorem angleBy_reaches_full :
    let z : Scalar Float := ⟨1, -8.673617379884035e-19⟩
    IsArctangent nearestArctangent ∧ z.re.isFinite = true ∧ z.im.isFinite = true ∧
      ¬ z.angleBy nearestArctangent < 2.0 * halfTurn := by
  intro z
  have finite : z.re.isFinite = true := by decide +kernel
  have finiteToo : z.im.isFinite = true := by decide +kernel
  obtain ⟨finiteAngle, -, -, less_iff⟩ :=
    angleBy_isWithin isArctangent_nearestArctangent finite finiteToo
  refine ⟨isArctangent_nearestArctangent, finite, finiteToo, ?_⟩
  rw [lt_iff_numberOf finiteAngle standsFor_full.1, standsFor_full.2, less_iff, not_not,
    ← numberOf_zero,
    ← lt_iff_numberOf rfl finite, ← lt_iff_numberOf finiteToo rfl]
  decide +kernel

end QuantumAssembler.Scalar
