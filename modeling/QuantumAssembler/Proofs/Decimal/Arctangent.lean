import Mathlib.Analysis.SpecialFunctions.Trigonometric.Arctan
import Mathlib.Analysis.SpecialFunctions.Trigonometric.Bounds
import Mathlib.Analysis.Real.Pi.Bounds
import QuantumAssembler.Proofs.Decimal.Correct

/-!
Module: QuantumAssembler.Proofs.Decimal.Arctangent
Purpose: Doubles that are nearest to a real number, and arctangents of doubles that are rounded
  correctly. Between a number and the double that is nearest to it there is no other double, so that
  bounds which are doubles themselves outlast the rounding. Such arctangents exist.
Main exports: IsNearestDouble, exists_nearestDouble, IsNearestDouble.le, IsNearestDouble.ge,
  IsNearestDouble.lt_of_lt_middle, IsNearestDouble.lt_of_middle_lt, isNearestDouble_add,
  arctangentOf, IsArctangent, nearestArctangent, IsSided.arctangentOf, lt_arctan
-/

namespace QuantumAssembler.Decimal

open Float.Model Float.Model.UnpackedFloat

/-- No finite double is nearer to a real number than this one. -/
def IsNearestDouble (r : ℝ) (x : Float) : Prop :=
  x.isFinite = true ∧
    ∀ y : Float, y.isFinite = true → |(numberOf x : ℝ) - r| ≤ |(numberOf y : ℝ) - r|

/-- There are as many doubles as patterns of bits. -/
theorem finite_double : Finite Float := by
  refine Finite.of_injective (fun x : Float => x.toModel.toBits.toBitVec.toFin) ?_
  intro x y same
  have bits : x.toModel.toBits.toBitVec = y.toModel.toBits.toBitVec := BitVec.toFin_inj.mp same
  apply eq_of_unpack
  exact congrArg (unpack Format.binary64) bits

theorem exists_nearestDouble (r : ℝ) : ∃ x, IsNearestDouble r x := by
  have := finite_double
  exact Set.exists_min_image {x : Float | x.isFinite = true} (fun x => |(numberOf x : ℝ) - r|)
    (Set.toFinite _) ⟨0, rfl⟩

namespace IsNearestDouble

variable {r : ℝ} {x y : Float} {a b : ℚ}

theorem le (nearest : IsNearestDouble r x) (stands : StandsFor y b) (below : r ≤ b) :
    numberOf x ≤ b := by
  have near := nearest.2 y stands.1
  rw [stands.2, abs_of_nonneg (sub_nonneg.mpr below)] at near
  have upper : (numberOf x : ℝ) ≤ b := by linarith [le_abs_self ((numberOf x : ℝ) - r)]
  exact_mod_cast upper

theorem ge (nearest : IsNearestDouble r x) (stands : StandsFor y b) (above : b ≤ r) :
    b ≤ numberOf x := by
  have near := nearest.2 y stands.1
  rw [stands.2, abs_of_nonpos (sub_nonpos.mpr above)] at near
  have lower : (b : ℝ) ≤ numberOf x := by linarith [neg_abs_le ((numberOf x : ℝ) - r)]
  exact_mod_cast lower

/-- A number that is nearer to a double than to a bound above it is rounded to below the bound. -/
theorem lt_of_lt_middle (nearest : IsNearestDouble r x) (stands : StandsFor y a) (less : a < b)
    (middle : r < ((a + b) / 2 : ℚ)) : numberOf x < b := by
  have near := nearest.2 y stands.1
  rw [stands.2] at near
  push_cast at middle
  have less : (a : ℝ) < b := by exact_mod_cast less
  have upper : (numberOf x : ℝ) < b := by
    have side := le_abs_self ((numberOf x : ℝ) - r)
    rcases abs_cases ((a : ℝ) - r) with ⟨same, -⟩ | ⟨same, -⟩
    · rw [same] at near
      linarith
    · rw [same] at near
      linarith
  exact_mod_cast upper

/-- A number that is nearer to a double than to a bound below it is rounded to above the bound. -/
theorem lt_of_middle_lt (nearest : IsNearestDouble r x) (stands : StandsFor y b) (less : a < b)
    (middle : ((a + b) / 2 : ℚ) < r) : a < numberOf x := by
  have near := nearest.2 y stands.1
  rw [stands.2] at near
  push_cast at middle
  have less : (a : ℝ) < b := by exact_mod_cast less
  have lower : (a : ℝ) < numberOf x := by
    have side := neg_abs_le ((numberOf x : ℝ) - r)
    rcases abs_cases ((b : ℝ) - r) with ⟨same, -⟩ | ⟨same, -⟩
    · rw [same] at near
      linarith
    · rw [same] at near
      linarith
  exact_mod_cast lower

end IsNearestDouble

/-- A sum that is not huge is nearest to the exact one. -/
theorem isNearestDouble_add {x y : Float} (finite : x.isFinite = true) (finiteToo : y.isFinite = true)
    (small : |numberOf x + numberOf y| < 2 ^ (1023 : Int)) :
    IsNearestDouble ((numberOf x + numberOf y : ℚ) : ℝ) (x + y) := by
  have rounded := rounded_add finite finiteToo
  refine ⟨rounded.isFinite small, fun z finiteThird => ?_⟩
  exact_mod_cast rounded.nearest (rounded.isFinite small) finiteThird

/-- What is greater than a double on one side of zero is so by a unit of its last place. -/
theorem step_up_sided {m : Nat} {e : Int} (double : IsDouble m e) {x : Float}
    (finite : x.isFinite = true) {s : Sign} (less : (m * 2 ^ e : ℚ) < signUnit s * numberOf x) :
    ((m + 1) * 2 ^ e : ℚ) ≤ signUnit s * numberOf x := by
  obtain below | ⟨n, f, doubleToo, value⟩ := signed_cases finite s
  · exact absurd (less.trans_le below) (not_lt.mpr (magnitude_pos double.pos e).le)
  · rw [value] at less ⊢
    exact double.step_up doubleToo less

/-! ### Arctangents -/

/-- The arctangent of what a double stands for. For the two infinities it is a quarter of a turn. -/
noncomputable def arctangentOf (x : Float) : ℝ :=
  match x.toModel.unpack with
  | .infinity s => (signUnit s / 2 : ℚ) * Real.pi
  | _ => Real.arctan (numberOf x)

/-- Whether a function of doubles is the arctangent, rounded correctly. -/
def IsArctangent (arctangent : Float → Float) : Prop :=
  ∀ x : Float, x.isNaN = false → IsNearestDouble (arctangentOf x) (arctangent x)

/-- An arctangent that is chosen among the nearest doubles. -/
noncomputable def nearestArctangent (x : Float) : Float :=
  (exists_nearestDouble (arctangentOf x)).choose

theorem isArctangent_nearestArctangent : IsArctangent nearestArctangent :=
  fun x _ => (exists_nearestDouble (arctangentOf x)).choose_spec

section Arctangents

variable {x : Float} {s : Sign}

theorem arctangentOf_of_isFinite (finite : x.isFinite = true) :
    arctangentOf x = Real.arctan (numberOf x) := by
  unfold arctangentOf
  obtain ⟨s, parts⟩ | ⟨s, m, e, pos, parts⟩ := unpack_of_isFinite finite
  · rw [parts]
  · rw [parts]

theorem arctangentOf_of_infinity (parts : x.toModel.unpack = .infinity s) :
    arctangentOf x = signUnit s * (Real.pi / 2) := by
  unfold arctangentOf
  rw [parts]
  dsimp only
  push_cast
  ring

theorem IsSided.isNaN (sided : IsSided s x) : x.isNaN = false := by
  change x.toModel.unpack.isNaN = false
  rcases sided with ⟨finite, -⟩ | parts
  · obtain ⟨t, parts⟩ | ⟨t, m, e, pos, parts⟩ := unpack_of_isFinite finite
    · rw [parts]
      rfl
    · rw [parts]
      rfl
  · rw [parts]
    rfl

/-- An arctangent lies on the side of zero on which the double lies, at most a quarter of a turn from
    there. -/
theorem IsSided.arctangentOf (sided : IsSided s x) :
    0 ≤ signUnit s * arctangentOf x ∧ signUnit s * arctangentOf x ≤ Real.pi / 2 := by
  rcases sided with ⟨finite, side⟩ | parts
  · rw [arctangentOf_of_isFinite finite]
    cases s with
    | positive =>
        rw [signUnit, one_mul] at side
        rw [signUnit, Rat.cast_one, one_mul]
        exact ⟨Real.arctan_nonneg.mpr (by exact_mod_cast side), (Real.arctan_lt_pi_div_two _).le⟩
    | negative =>
        rw [signUnit, neg_one_mul] at side
        rw [signUnit, Rat.cast_neg, Rat.cast_one, neg_one_mul, ← Real.arctan_neg]
        exact ⟨Real.arctan_nonneg.mpr (by exact_mod_cast side), (Real.arctan_lt_pi_div_two _).le⟩
  · have unit : (signUnit s : ℝ) * signUnit s = 1 := by exact_mod_cast signUnit_mul_self s
    rw [arctangentOf_of_infinity parts, ← mul_assoc, unit, one_mul]
    exact ⟨Real.pi_div_two_pos.le, le_rfl⟩

end Arctangents

/-- Near zero an arctangent is hardly less than its argument. -/
theorem lt_arctan {c p : ℝ} (pos : 0 < c) (small : c < 1) (gap : c < p * (1 - c ^ 2 / 2)) :
    c < Real.arctan p := by
  have quarter : c < Real.pi / 2 := by linarith [Real.pi_gt_three]
  have room : 0 < 1 - c ^ 2 / 2 := by nlinarith
  have cosine : 1 - c ^ 2 / 2 ≤ Real.cos c := Real.one_sub_sq_div_two_le_cos
  have slope : Real.tan c < p := by
    rw [Real.tan_eq_sin_div_cos, div_lt_iff₀ (room.trans_le cosine)]
    have p_pos : 0 < p := by
      by_contra not
      nlinarith
    calc Real.sin c ≤ c := Real.sin_le pos.le
      _ < p * (1 - c ^ 2 / 2) := gap
      _ ≤ p * Real.cos c := mul_le_mul_of_nonneg_left cosine p_pos.le
  calc c = Real.arctan (Real.tan c) := (Real.arctan_tan (by linarith) quarter).symm
    _ < Real.arctan p := Real.arctan_strictMono slope

end QuantumAssembler.Decimal
