import Mathlib.Algebra.Order.Field.Basic
import QuantumAssembler.Proofs.Decimal.Correct
import QuantumAssembler.Proofs.Decimal.Undefined
import QuantumAssembler.Proofs.Scalar.Modulus

/-!
Module: QuantumAssembler.Proofs.Scalar.Division
Purpose: When division of scalars fails, and what it gives. Over exact parts zero is the only divisor
  that is refused, and division undoes multiplication. Over doubles the squares of the divisor's parts
  are looked at, which vanish for parts that do not: every divisor is refused whose parts have squares
  of at most half of the smallest double.
Main exports: beq_zero_add_squares_iff, mul_self_beq_zero_iff, Scalar.divide_eq_error_iff,
  Scalar.mul_of_divide, Scalar.divide_mul_self, Scalar.HasVanishingSquares,
  Scalar.divide_refuses_vanishing_squares
-/

namespace QuantumAssembler

open Float.Model Float.Model.UnpackedFloat

universe u

namespace Decimal

/-! ### Sums of squares -/

section Squares

variable {x y : Float} {q : ℚ}

theorem isSided_mul_self (finite : x.isFinite = true) : IsSided .positive (x * x) := by
  apply (rounded_mul finite finite).isSided
  rw [signUnit, one_mul]
  exact mul_self_nonneg _

/-- A double above zero is at least the smallest one. -/
theorem smallest_le_numberOf (finite : x.isFinite = true) (above : 0 < numberOf x) :
    (2 : ℚ) ^ (-1074 : Int) ≤ numberOf x := by
  obtain ⟨s, -, zero⟩ | ⟨s, m, e, pos, -, double, value⟩ := numberOf_cases finite
  · exact absurd zero above.ne'
  · have one : (1 : ℚ) ≤ m := by exact_mod_cast pos
    rw [← abs_of_pos above, value, abs_signUnit_mul, abs_of_pos (magnitude_pos pos e)]
    calc (2 : ℚ) ^ (-1074 : Int) ≤ 2 ^ e := zpow_le_zpow_right₀ one_le_two double.least
      _ ≤ m * 2 ^ e := le_mul_of_one_le_left (two_zpow_pos e).le one

theorem unpack_infinity_add (unbounded : x.toModel.unpack = .infinity .positive)
    (sided : IsSided .positive y) : (x + y).toModel.unpack = .infinity .positive := by
  have sum : UnpackedFloat.add Format.binary64 x.toModel.unpack y.toModel.unpack =
      .infinity .positive := by
    rw [unbounded]
    rcases sided with ⟨finite, -⟩ | parts
    · obtain ⟨s, parts⟩ | ⟨s, m, e, pos, parts⟩ := unpack_of_isFinite finite
      · rw [parts]
        rfl
      · rw [parts]
        rfl
    · rw [parts]
      rfl
  change unpack Format.binary64 (UnpackedFloat.pack Format.binary64
    (UnpackedFloat.add Format.binary64 x.toModel.unpack y.toModel.unpack)) = _
  rw [sum]
  rfl

/-- A sum of what is not negative is a zero only if the first operand is one. -/
theorem beq_zero_of_add_left (sided : IsSided .positive x) (sidedToo : IsSided .positive y)
    (zero : (x + y == 0) = true) : (x == 0) = true := by
  obtain ⟨s, sum⟩ := unpack_of_beq_zero zero
  rcases sided with ⟨finite, nonneg⟩ | unbounded
  · rcases sidedToo with ⟨finiteToo, nonnegToo⟩ | unbounded
    · rw [signUnit, one_mul] at nonneg nonnegToo
      rw [beq_zero_iff_numberOf finite]
      by_contra some
      -- A sum that is at least the smallest double is not rounded to a zero.
      have least := smallest_le_numberOf finite (nonneg.lt_of_ne' some)
      have small := (rounded_add finite finiteToo).beq_zero_iff.mp zero
      have below : (2 : ℚ) ^ (-1075 : Int) < 2 ^ (-1074 : Int) :=
        zpow_lt_zpow_right₀ one_lt_two (by decide)
      have low := le_abs_self (numberOf x + numberOf y)
      linarith
    · rw [add_comm_double, unpack_infinity_add unbounded (.inl ⟨finite, nonneg⟩)] at sum
      cases sum
  · rw [unpack_infinity_add unbounded sidedToo] at sum
    cases sum

/-- A sum of squares is a zero exactly if both squares are. -/
theorem beq_zero_add_squares_iff (finite : x.isFinite = true) (finiteToo : y.isFinite = true) :
    (x * x + y * y == 0) = true ↔ (x * x == 0) = true ∧ (y * y == 0) = true := by
  have first := isSided_mul_self finite
  have second := isSided_mul_self finiteToo
  constructor
  · intro zero
    refine ⟨beq_zero_of_add_left first second zero, beq_zero_of_add_left second first ?_⟩
    rwa [add_comm_double]
  · rintro ⟨zero, zeroToo⟩
    exact add_of_beq_zero zero zeroToo

/-- A square is a zero exactly if it is at most half of the smallest double. -/
theorem mul_self_beq_zero_iff (finite : x.isFinite = true) :
    (x * x == 0) = true ↔ numberOf x ^ 2 ≤ 2 ^ (-1075 : Int) := by
  rw [(rounded_mul finite finite).beq_zero_iff, abs_mul_self, sq]

end Squares

end Decimal

namespace Scalar

open Decimal

section Refusal

variable {α : Type u} [Add α] [Sub α] [Mul α] [Div α] [BEq α] [Zero α] {z w : Scalar α}

/-- Division either fails for want of a divisor or gives a quotient. -/
theorem divide_cases (z w : Scalar α) :
    (w.squaredModulus == 0) = true ∧ z.divide w = .error .divideByZero ∨
      (w.squaredModulus == 0) = false ∧ ∃ q, z.divide w = .ok q := by
  cases test : w.squaredModulus == 0 with
  | true => exact .inl ⟨rfl, if_pos test⟩
  | false => exact .inr ⟨rfl, _, if_neg (Bool.not_eq_true _ ▸ test)⟩

theorem divide_eq_error_iff : z.divide w = .error .divideByZero ↔ (w.squaredModulus == 0) = true := by
  rcases divide_cases z w with ⟨test, failed⟩ | ⟨test, q, divided⟩
  · exact iff_of_true failed test
  · rw [divided, test]
    exact iff_of_false nofun Bool.false_ne_true

end Refusal

/-! ### Exact parts -/

section Exact

variable {α : Type u} [Field α] [LinearOrder α] [IsStrictOrderedRing α] {z w q : Scalar α}

/-- A divisor times its conjugate cancels against its squared modulus. -/
theorem conjugate_mul_inverse (some : w ≠ 0) :
    w * w.conjugate * ofReal w.squaredModulus⁻¹ = 1 := by
  have modulus : w.squaredModulus ≠ 0 := squaredModulus_eq_zero_iff.not.mpr some
  rw [mul_comm w, conjugate_mul_self, ofReal_mul_ofReal, mul_inv_cancel₀ modulus]
  rfl

variable [BEq α] [LawfulBEq α]

/-- Over exact parts zero is the only divisor that is refused. -/
theorem divide_eq_error_iff_eq_zero : z.divide w = .error .divideByZero ↔ w = 0 := by
  rw [divide_eq_error_iff, beq_iff_eq, squaredModulus_eq_zero_iff]

/-- A quotient is a quotient by the squared modulus of the divisor. -/
theorem divide_of_ne_zero (some : w ≠ 0) :
    z.divide w = .ok (z * w.conjugate * ofReal w.squaredModulus⁻¹) := by
  have test : ¬ (w.squaredModulus == 0) = true := by
    rw [beq_iff_eq, squaredModulus_eq_zero_iff]
    exact some
  unfold divide
  rw [if_neg test]
  congr 1
  ext
  · simp only [re_mul, im_mul, re_conjugate, im_conjugate, re_ofReal, im_ofReal]
    ring
  · simp only [re_mul, im_mul, re_conjugate, im_conjugate, re_ofReal, im_ofReal]
    ring

theorem mul_of_divide (divided : z.divide w = .ok q) : q * w = z := by
  have some : w ≠ 0 := by
    intro zero
    cases (divide_eq_error_iff_eq_zero.mpr zero).symm.trans divided
  rw [divide_of_ne_zero some] at divided
  cases divided
  calc z * w.conjugate * ofReal w.squaredModulus⁻¹ * w
      = z * (w * w.conjugate * ofReal w.squaredModulus⁻¹) := by ring
    _ = z := by rw [conjugate_mul_inverse some, mul_one]

theorem divide_mul_self (some : w ≠ 0) : (z * w).divide w = .ok z := by
  rw [divide_of_ne_zero some]
  congr 1
  calc z * w * w.conjugate * ofReal w.squaredModulus⁻¹
      = z * (w * w.conjugate * ofReal w.squaredModulus⁻¹) := by ring
    _ = z := by rw [conjugate_mul_inverse some, mul_one]

end Exact

/-! ### Parts that round -/

/-- A finite scalar is zero exactly if both parts stand for the number zero. -/
theorem isZero_iff_numberOf {w : Scalar Float} (finite : w.re.isFinite = true)
    (finiteToo : w.im.isFinite = true) :
    w.isZero = true ↔ numberOf w.re = 0 ∧ numberOf w.im = 0 := by
  rw [isZero, Bool.and_eq_true, beq_zero_iff_numberOf finite, beq_zero_iff_numberOf finiteToo]

/-- A scalar whose parts have squares that are rounded to zero: at most half of the smallest double. -/
def HasVanishingSquares (w : Scalar Float) : Prop :=
  numberOf w.re ^ 2 ≤ 2 ^ (-1075 : Int) ∧ numberOf w.im ^ 2 ≤ 2 ^ (-1075 : Int)

theorem squaredModulus_beq_zero_iff {w : Scalar Float} (finite : w.re.isFinite = true)
    (finiteToo : w.im.isFinite = true) :
    (w.squaredModulus == 0) = true ↔ w.HasVanishingSquares := by
  rw [squaredModulus, beq_zero_add_squares_iff finite finiteToo, mul_self_beq_zero_iff finite,
    mul_self_beq_zero_iff finiteToo, HasVanishingSquares]

theorem hasVanishingSquares_of_isZero {w : Scalar Float} (finite : w.re.isFinite = true)
    (finiteToo : w.im.isFinite = true) (zero : w.isZero = true) : w.HasVanishingSquares := by
  obtain ⟨re, im⟩ := (isZero_iff_numberOf finite finiteToo).mp zero
  rw [HasVanishingSquares, re, im, zero_pow two_ne_zero]
  exact ⟨(two_zpow_pos _).le, (two_zpow_pos _).le⟩

/-- Over doubles division fails exactly for divisors whose parts have vanishing squares, and gives a
    quotient otherwise. So it is zero alone for which it fails, unless the divisor is one of these and
    not zero. Over exact parts it fails exactly for zero, and otherwise undoes multiplication. -/
theorem divide_refuses_vanishing_squares (z w : Scalar Float) (finite : w.re.isFinite = true)
    (finiteToo : w.im.isFinite = true) {α : Type u} [Field α] [LinearOrder α]
    [IsStrictOrderedRing α] [BEq α] [LawfulBEq α] (a b : Scalar α) :
    (z.divide w = .error .divideByZero ↔ w.HasVanishingSquares) ∧
    (z.divide w = .error .divideByZero ∨ ∃ q, z.divide w = .ok q) ∧
    ((z.divide w = .error .divideByZero ↔ w.isZero = true) ↔
      (w.HasVanishingSquares → w.isZero = true)) ∧
    (a.divide b = .error .divideByZero ↔ b = 0) ∧
    (∀ q, a.divide b = .ok q → q * b = a) ∧ (b ≠ 0 → (a * b).divide b = .ok a) := by
  have fails : z.divide w = .error .divideByZero ↔ w.HasVanishingSquares := by
    rw [divide_eq_error_iff, squaredModulus_beq_zero_iff finite finiteToo]
  have law : (z.divide w = .error .divideByZero ↔ w.isZero = true) ↔
      (w.HasVanishingSquares → w.isZero = true) := by
    rw [fails]
    exact ⟨Iff.mp, fun only => ⟨only, hasVanishingSquares_of_isZero finite finiteToo⟩⟩
  exact ⟨fails, (divide_cases z w).imp And.right And.right, law, divide_eq_error_iff_eq_zero,
    fun q => mul_of_divide, divide_mul_self⟩

/-- A divisor of small parts that is refused, and one of greater parts that is not. -/
theorem divide_refuses_vanishing_squares_small :
    let w : Scalar Float := ⟨1e-170, -1e-165⟩
    let v : Scalar Float := ⟨1e-160, 0⟩
    w.re.isFinite = true ∧ w.im.isFinite = true ∧ v.re.isFinite = true ∧ v.im.isFinite = true ∧
      (1 : Scalar Float).divide w = .error .divideByZero ∧
      (∃ q, (1 : Scalar Float).divide v = .ok q) ∧
      (⟨1, 2⟩ : Scalar ℚ) ≠ 0 ∧
      ((⟨3, 4⟩ : Scalar ℚ) * ⟨1, 2⟩).divide ⟨1, 2⟩ = .ok ⟨3, 4⟩ := by
  intro w v
  have finite : w.re.isFinite = true := by decide +kernel
  have finiteToo : w.im.isFinite = true := by decide +kernel
  have greater : v.re.isFinite = true := by decide +kernel
  have greaterToo : v.im.isFinite = true := by decide +kernel
  have some : (⟨1, 2⟩ : Scalar ℚ) ≠ 0 := fun zero => one_ne_zero (congrArg re zero)
  obtain ⟨fails, -, -, -, -, inverse⟩ := divide_refuses_vanishing_squares 1 w finite finiteToo
    (⟨3, 4⟩ : Scalar ℚ) ⟨1, 2⟩
  obtain ⟨-, divided, -⟩ := divide_refuses_vanishing_squares 1 v greater greaterToo
    (⟨3, 4⟩ : Scalar ℚ) ⟨1, 2⟩
  have refused : (1 : Scalar Float).divide w = .error .divideByZero := by
    rw [fails, ← squaredModulus_beq_zero_iff finite finiteToo]
    decide +kernel
  have accepted : ∃ q, (1 : Scalar Float).divide v = .ok q := by
    refine divided.resolve_left ?_
    rw [divide_eq_error_iff]
    decide +kernel
  exact ⟨finite, finiteToo, greater, greaterToo, refused, accepted, some, inverse some⟩

/-- A double below the root of the smallest one is not zero, and cannot be divided by itself. -/
theorem divide_by_itself_refused :
    let w : Scalar Float := ⟨2.409919865102884e-181, 0⟩
    w.re.isFinite = true ∧ w.im.isFinite = true ∧ w.isZero = false ∧
      w.divide w = .error .divideByZero := by
  intro w
  have vanishes : (w.squaredModulus == 0) = true := by decide +kernel
  exact ⟨by decide +kernel, by decide +kernel, by decide +kernel, divide_eq_error_iff.mpr vanishes⟩

end Scalar

end QuantumAssembler
