import Mathlib.Data.Nat.Sqrt
import QuantumAssembler.Proofs.Decimal.Doubles

/-!
Module: QuantumAssembler.Proofs.Decimal.Root
Purpose: The root of a finite double that is not below zero is finite. Rounding makes a number at
  most one place longer, so a number far below the largest double stays finite; and the root of a
  double has about half as many places as the double.
Main exports: isFinite_of_pack, roundWithAccuracy_cases, log2_sqrtCore, isFinite_sqrt
-/

namespace QuantumAssembler.Decimal

open Float.Model Float.Model.UnpackedFloat

/-! ### Packing -/

/-- What has no exponent beyond that of the largest double is packed into a finite double. -/
theorem isFinite_of_pack {s : Sign} {m : Nat} {e : Int} {pos : 0 < m} (below : e ≤ 971) :
    (Float.ofModel (pack (.finite s m e pos))).isFinite = true := by
  have finite : ∀ (field : BitVec 11) (fraction : BitVec 52), field ≠ -1#11 →
      (unpack Format.binary64 (bitPattern s field fraction)).isFinite = true := by
    intro field fraction top
    rw [unpack_bitPattern, if_neg top]
    by_cases least : field = 0#11
    · rw [if_pos least]
      by_cases none : fraction = 0#52
      · rw [dif_pos none]
        rfl
      · rw [dif_neg none]
        rfl
    · rw [if_neg least]
      rfl
  have biased : ((2 ^ (11 - 1) - 1 : Nat) : Int) = 1023 := rfl
  change (unpack Format.binary64
    (UnpackedFloat.pack Format.binary64 (.finite s m e pos))).isFinite = true
  unfold UnpackedFloat.pack
  dsimp only [Format.exponentBias]
  rw [biased, if_neg (by omega)]
  split
  · apply finite
    rw [Ne, eq_topField_iff, BitVec.toNat_ofNat]
    omega
  · exact finite _ _ (by decide)

/-! ### Rounding -/

theorem shiftRight_mantissa (em : ExtendedMantissa) (places : Nat) :
    (em >>> places).mantissa = em.mantissa / 2 ^ places := by
  change (places.repeat ExtendedMantissa.shiftRightOne em).mantissa = _
  induction places with
  | zero => exact (Nat.div_one em.mantissa).symm
  | succ places ih =>
      rw [Nat.repeat, pow_succ, ← Nat.div_div_eq_div_mul, ← ih]
      rfl

theorem roundedMantissa_le (em : ExtendedMantissa) : em.roundedMantissa ≤ em.mantissa + 1 := by
  unfold ExtendedMantissa.roundedMantissa Accuracy.roundToNearestEven
  split <;> omega

/-- The exponent after a shift is the greater one of the exponent before and the one aimed at, and
    the mantissa loses as many places as the exponent gains. -/
theorem exists_shiftToTargetExponent (n : Nat) (f : Int) (accuracy : Accuracy) :
    ∃ (em : ExtendedMantissa) (places : Nat),
      shiftToTargetExponent Format.binary64 n f accuracy = (em, f + places) ∧
        em.mantissa = n / 2 ^ places ∧
        f + places = max f (max (n.log2 + 1 + f - 53) (-1074)) := by
  refine ⟨_, _, rfl, ?_, ?_⟩
  · rw [shiftRight_mantissa, ofMantissaAndAccuracy_mantissa]
  · rw [targetExponent_binary64, totalExponent]
    omega

/-- A mantissa that is rounded after it lost some places is at most one place longer than before. -/
theorem log2_rounded {n places : Nat} {em : ExtendedMantissa}
    (shifted : em.mantissa = n / 2 ^ places) :
    em.roundedMantissa.log2 ≤ n.log2 + 1 - places := by
  have cut : n / 2 ^ places < 2 ^ (n.log2 + 1 - places) := by
    rw [Nat.div_lt_iff_lt_mul (Nat.two_pow_pos places), ← pow_add]
    exact Nat.lt_log2_self.trans_le (Nat.pow_le_pow_right Nat.two_pos (by omega))
  have bound : em.roundedMantissa ≤ 2 ^ (n.log2 + 1 - places) := by
    have step := roundedMantissa_le em
    omega
  by_cases none : em.roundedMantissa = 0
  · rw [none]
    exact Nat.zero_le _
  · refine Nat.le_of_lt_succ ((Nat.log2_lt none).mpr (bound.trans_lt ?_))
    exact Nat.pow_lt_pow_right (by decide) (Nat.lt_succ_self _)

/-- Rounding gives a zero or a number whose exponent stays small. -/
theorem roundWithAccuracy_cases {n : Nat} {f : Int} (below : n.log2 + f ≤ 970)
    (accuracy : Accuracy) (s : Sign) :
    roundWithAccuracy Format.binary64 s n f accuracy = .zero s ∨
      ∃ m e pos, e ≤ 971 ∧
        roundWithAccuracy Format.binary64 s n f accuracy = .finite s m e pos := by
  unfold roundWithAccuracy
  -- The mantissa is shifted twice: before it is rounded, and after that, as the rounding may carry.
  obtain ⟨em, places, shifted, mantissa, exponent⟩ := exists_shiftToTargetExponent n f accuracy
  obtain ⟨em', places', shifted', -, exponent'⟩ :=
    exists_shiftToTargetExponent em.roundedMantissa (f + places) .exact
  have rounded := log2_rounded mantissa
  rw [shifted]
  dsimp only
  rw [shifted']
  dsimp only
  by_cases none : em'.mantissa = 0
  · exact .inl (dif_pos none)
  · exact .inr ⟨_, _, Nat.pos_of_ne_zero none, by omega, dif_neg none⟩

/-! ### Roots -/

/-- The root of a double has half as many places in front of the binary point. -/
theorem log2_sqrtCore {m : Nat} {e : Int} (double : IsDouble m e) :
    (sqrtCore Format.binary64 m e).1.log2 + (sqrtCore Format.binary64 m e).2.1 ≤ 511 := by
  have fits := (Nat.log2_lt double.pos.ne').mpr double.fits
  have top := double.top
  unfold sqrtCore
  dsimp only
  -- The exponent aimed at does not matter, since the exponent of the root is at most half of `e`.
  generalize Format.binary64.targetExponent ((totalExponent m e + 1).ediv 2) = aim
  have half : e.ediv 2 = e / 2 := rfl
  rw [half]
  generalize exponent : min (e / 2) aim = f
  obtain ⟨places, more⟩ : ∃ places : Nat, e - 2 * f = places := ⟨(e - 2 * f).toNat, by omega⟩
  rw [more, Int.toNat_natCast, Nat.shiftLeft_eq]
  have root := Nat.sqrt_le' (m * 2 ^ places)
  generalize (m * 2 ^ places).sqrt = r at root ⊢
  by_cases none : r = 0
  · rw [none]
    have nought : Nat.log2 0 = 0 := rfl
    omega
  · have long : 2 ^ (2 * r.log2) < 2 ^ (53 + places) :=
      calc 2 ^ (2 * r.log2) = (2 ^ r.log2) ^ 2 := by rw [← pow_mul, mul_comm]
        _ ≤ r ^ 2 := Nat.pow_le_pow_left (Nat.log2_self_le none) 2
        _ ≤ m * 2 ^ places := root
        _ < 2 ^ 53 * 2 ^ places := Nat.mul_lt_mul_of_pos_right double.fits (Nat.two_pow_pos places)
        _ = 2 ^ (53 + places) := (pow_add 2 53 places).symm
    have places_lt := (Nat.pow_lt_pow_iff_right (by decide)).mp long
    omega

/-- The root of a finite double that is not below zero is finite. -/
theorem isFinite_sqrt {x : Float} (finite : x.isFinite = true) (nonneg : ¬ x < 0) :
    x.sqrt.isFinite = true := by
  change (Float.ofModel
    (pack (UnpackedFloat.sqrt Format.binary64 x.toModel.unpack))).isFinite = true
  obtain ⟨s, parts⟩ | ⟨s, m, e, pos, parts⟩ := unpack_of_isFinite finite
  · rw [parts]
    cases s <;> rfl
  · have double := isDouble_of_unpack parts
    rw [lt_double_iff, parts] at nonneg
    cases s with
    | negative => exact absurd rfl nonneg
    | positive =>
        have below := log2_sqrtCore double
        have root : UnpackedFloat.sqrt Format.binary64 (.finite .positive m e pos) =
            roundWithAccuracy Format.binary64 .positive (sqrtCore Format.binary64 m e).1
              (sqrtCore Format.binary64 m e).2.1 (sqrtCore Format.binary64 m e).2.2 := rfl
        rw [parts, root]
        rcases roundWithAccuracy_cases (below.trans (by decide))
          (sqrtCore Format.binary64 m e).2.2 .positive with zero | ⟨m, e, pos, low, some⟩
        · rw [zero]
          rfl
        · rw [some]
          exact isFinite_of_pack low

end QuantumAssembler.Decimal
