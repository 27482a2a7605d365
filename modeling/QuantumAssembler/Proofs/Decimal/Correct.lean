import Mathlib.Data.Rat.Floor
import QuantumAssembler.Proofs.Decimal.Nearest
import QuantumAssembler.Proofs.Decimal.Number

/-!
Module: QuantumAssembler.Proofs.Decimal.Correct
Purpose: Sums, products and quotients of finite doubles are rounded correctly: the result is a double
  to which the exact result rounds, a zero if the exact result is at most half of the smallest double,
  and infinite only if it is beyond all doubles. So no other double is nearer to the exact result.
Main exports: Rounded, rounded_pack_roundWithAccuracy, rounded_add, rounded_mul, rounded_div,
  Rounded.nearest, Rounded.beq_zero_iff, IsSided, Rounded.isSided
-/

namespace QuantumAssembler.Decimal

open Float.Model Float.Model.UnpackedFloat

/-- Every number that is not negative is nearest to a whole one. -/
theorem exists_nearest {y : ℚ} (nonneg : 0 ≤ y) : ∃ n, Nearest n y := by
  have low := Nat.floor_le nonneg
  have high := Nat.lt_floor_add_one y
  generalize ⌊y⌋₊ = n at low high
  rcases lt_trichotomy (2 * y) (2 * n + 1) with front | half | behind
  · refine ⟨n, ?_⟩
    unfold Nearest
    split <;> constructor <;> linarith
  · obtain even | odd := Nat.mod_two_eq_zero_or_one n
    · refine ⟨n, ?_⟩
      rw [Nearest, if_pos even]
      constructor <;> linarith
    · refine ⟨n + 1, ?_⟩
      rw [Nearest, if_pos (by omega)]
      push_cast
      constructor <;> linarith
  · refine ⟨n + 1, ?_⟩
    unfold Nearest
    push_cast
    split <;> constructor <;> linarith

/-- Mantissa and exponent of a positive double, if there were no greatest one. -/
structure IsUnbounded (mantissa : Nat) (exponent : Int) : Prop where
  pos : 0 < mantissa
  fits : mantissa < Nat.pow 2 53
  least : -1074 ≤ exponent
  full : Nat.pow 2 52 ≤ mantissa ∨ exponent = -1074

theorem IsUnbounded.isDouble {m : Nat} {e : Int} (unbounded : IsUnbounded m e) (top : e ≤ 971) :
    IsDouble m e :=
  ⟨unbounded.pos, unbounded.fits, unbounded.least, top, unbounded.full⟩

/-- An unpacked double to which a number is rounded. -/
def Rounded (q : ℚ) : UnpackedFloat → Prop
  | .zero _ => |q| ≤ 2 ^ (-1075 : Int)
  | .finite s m e _ => RoundsTo m e (signUnit s * q)
  | .infinity s => 2 ^ (1023 : Int) ≤ signUnit s * q
  | .notANumber => False

/-! ### Rounding -/

section Rounding

variable {m n : Nat} {e f : Int} {q y : ℚ}

theorem unpack_pack_zero (s : Sign) :
    unpack Format.binary64 (UnpackedFloat.pack Format.binary64 (.zero s)) = .zero s := by
  cases s <;> rfl

/-- What is beyond the exponents of doubles is packed as infinite. -/
theorem unpack_pack_beyond (s : Sign) (pos : 0 < m) (beyond : 971 < e) :
    unpack Format.binary64 (UnpackedFloat.pack Format.binary64 (.finite s m e pos)) =
      .infinity s := by
  have packed : UnpackedFloat.pack Format.binary64 (.finite s m e pos) =
      UnpackedFloat.pack Format.binary64 (.infinity s) := by
    have biased : ((2 ^ (11 - 1) - 1 : Nat) : Int) = 1023 := rfl
    unfold UnpackedFloat.pack
    dsimp only [Format.exponentBias]
    rw [biased, if_pos (by omega)]
  rw [packed]
  cases s <;> rfl

theorem rounded_pack {s : Sign} (unbounded : IsUnbounded m e)
    (rounds : RoundsTo m e (signUnit s * q)) :
    Rounded q (unpack Format.binary64
      (UnpackedFloat.pack Format.binary64 (.finite s m e unbounded.pos))) := by
  by_cases top : e ≤ 971
  · have double := unbounded.isDouble top
    rw [unpack_pack (u := .finite s m e unbounded.pos) double]
    exact rounds
  · have full : (2 : ℚ) ^ 52 ≤ m := by
      have := unbounded.full.resolve_right (by omega)
      exact_mod_cast this
    rw [unpack_pack_beyond s unbounded.pos (not_le.mp top)]
    calc (2 : ℚ) ^ (1023 : Int) = 2 ^ 53 * 2 ^ (970 : Int) := by
          rw [← zpow_natCast, ← zpow_add₀ two_ne_zero]
          rfl
      _ ≤ 2 ^ 53 * 2 ^ (e - 2) :=
          mul_le_mul_of_nonneg_left (zpow_le_zpow_right₀ one_le_two (by omega)) (by positivity)
      _ ≤ (4 * m - if IsDense m e then 1 else 2) * 2 ^ (e - 2) := by
          apply mul_le_mul_of_nonneg_right _ (two_zpow_pos _).le
          split <;> linarith
      _ ≤ signUnit s * q := rounds.le.1

/-- Counted in units of the last place, a nearest whole number with all its bits is rounded to. -/
theorem Nearest.roundsTo (nearest : Nearest m y) (full : -1074 < e → 2 ^ 52 ≤ y) :
    RoundsTo m e (y * 2 ^ e) := by
  rw [roundsTo_mul_zpow]
  unfold Nearest at nearest
  by_cases even : m % 2 = 0
  · rw [if_pos even] at nearest ⊢
    by_cases dense : IsDense m e
    · have equal : (m : ℚ) = 2 ^ 52 := by exact_mod_cast dense.1
      have least := full dense.2
      rw [if_pos dense]
      constructor <;> linarith
    · rw [if_neg dense]
      constructor <;> linarith
  · have sparse : ¬ IsDense m e := by
      rintro ⟨rfl, -⟩
      exact even (by decide)
    rw [if_neg even] at nearest ⊢
    rw [if_neg sparse]
    constructor <;> linarith

/-- In front of a power of two the mantissa that is one bit too long is halved. -/
theorem Nearest.roundsTo_carry (nearest : Nearest (Nat.pow 2 53) y) (front : y < 2 ^ 53)
    (least : -1074 ≤ e) : RoundsTo (Nat.pow 2 52) (e + 1) (y * 2 ^ e) := by
  have halved : y * 2 ^ e = y / 2 * 2 ^ (e + 1) := by
    rw [zpow_add_one₀ two_ne_zero]
    ring
  have low := nearest.le.1
  rw [halved, roundsTo_mul_zpow, if_pos (by decide), if_pos ⟨rfl, by omega⟩]
  norm_num at low ⊢
  constructor <;> linarith

/-- The first shift of rounding leaves a number of at most 53 bits in front of the point, and fewer
    only if the exponent is the smallest. -/
theorem exists_shift {accuracy : Accuracy}
    (stands : Stands (ExtendedMantissa.ofMantissaAndAccuracy n accuracy) y)
    (enough : Nat.pow 2 52 ≤ n ∨ f ≤ -1074) :
    ∃ (em : ExtendedMantissa) (t : ℚ) (e : Int),
      shiftToTargetExponent Format.binary64 n f accuracy = (em, e) ∧ Stands em t ∧
        y * 2 ^ f = t * 2 ^ e ∧ -1074 ≤ e ∧ t < 2 ^ 53 ∧ (-1074 < e → 2 ^ 52 ≤ t) := by
  obtain ⟨low, high⟩ := stands.bounds
  rw [ofMantissaAndAccuracy_mantissa] at low high
  generalize reached : Format.binary64.targetExponent (totalExponent n f) = target
  have aim := reached
  rw [targetExponent_binary64, totalExponent] at aim
  obtain ⟨places, count⟩ : ∃ places : Nat, (target - f).toNat = places := ⟨_, rfl⟩
  refine ⟨_, y / 2 ^ places, f + places, ?_, stands.shiftRight places, ?_, by omega, ?_, ?_⟩
  · rw [shiftToTargetExponent, shiftToExponent, reached, count]
  · rw [zpow_add₀ two_ne_zero, zpow_natCast]
    field_simp
  · rw [div_lt_iff₀ (by positivity), ← pow_add]
    calc y < n + 1 := high
      _ ≤ 2 ^ (n.log2 + 1) := by exact_mod_cast Nat.lt_log2_self
      _ ≤ 2 ^ (53 + places) := pow_le_pow_right₀ one_le_two (by omega)
  · intro normal
    rw [le_div_iff₀ (by positivity), ← pow_add]
    by_cases none : places = 0
    · have many : (2 : ℚ) ^ 52 ≤ n := by
        have := enough.resolve_right (by omega)
        exact_mod_cast this
      rw [none]
      exact many.trans low
    · have some : n ≠ 0 := by
        rintro rfl
        have nought : Nat.log2 0 = 0 := rfl
        have few : ¬ Nat.pow 2 52 ≤ 0 := by decide
        omega
      calc (2 : ℚ) ^ (52 + places) ≤ 2 ^ n.log2 := pow_le_pow_right₀ one_le_two (by omega)
        _ ≤ n := by exact_mod_cast Nat.log2_self_le some
        _ ≤ y := low

theorem shiftToTargetExponent_zero (e : Int) :
    (shiftToTargetExponent Format.binary64 0 e .exact).1.mantissa = 0 := by
  obtain ⟨em, places, shifted, mantissa, -⟩ := exists_shiftToTargetExponent 0 e .exact
  rw [shifted, mantissa, Nat.zero_div]

/-- A number that is known with enough bits is rounded correctly. -/
theorem rounded_pack_roundWithAccuracy {accuracy : Accuracy}
    (stands : Stands (ExtendedMantissa.ofMantissaAndAccuracy n accuracy) y)
    (enough : Nat.pow 2 52 ≤ n ∨ f ≤ -1074) (s : Sign) :
    Rounded (signUnit s * (y * 2 ^ f)) (unpack Format.binary64
      (UnpackedFloat.pack Format.binary64
        (roundWithAccuracy Format.binary64 s n f accuracy))) := by
  obtain ⟨em, t, e, shifted, still, value, least, short, full⟩ := exists_shift stands enough
  have nonneg : 0 ≤ t := (Nat.cast_nonneg _).trans still.bounds.1
  obtain ⟨r, nearest⟩ := exists_nearest nonneg
  obtain ⟨low, high⟩ := nearest.le
  have signed : signUnit s * (signUnit s * (t * 2 ^ e)) = t * 2 ^ e := by
    rw [← mul_assoc, signUnit_mul_self, one_mul]
  rw [value]
  unfold roundWithAccuracy
  rw [shifted]
  dsimp only
  rw [still.roundedMantissa nearest]
  have bound : r ≤ Nat.pow 2 53 := by
    have below : (r : ℚ) < 2 ^ 53 + 1 := by linarith
    norm_cast at below
    exact Nat.le_of_lt_succ below
  -- The rounded mantissa has vanished, fits, or is one bit too long.
  rcases Nat.eq_zero_or_pos r with rfl | pos
  · have smallest : e = -1074 := by
      by_contra other
      have := full (by omega)
      norm_num at high
      linarith
    rw [dif_pos (shiftToTargetExponent_zero e), unpack_pack_zero]
    change |signUnit s * (t * 2 ^ e)| ≤ _
    rw [abs_signUnit_mul, abs_of_nonneg (mul_nonneg nonneg (two_zpow_pos e).le), smallest,
      show (-1075 : Int) = -1074 - 1 by decide, zpow_sub_one₀ two_ne_zero, mul_comm]
    apply mul_le_mul_of_nonneg_left _ (two_zpow_pos _).le
    norm_num at high
    linarith
  rcases bound.lt_or_eq with fits | rfl
  · have unbounded : IsUnbounded r e := by
      refine ⟨pos, fits, least, ?_⟩
      rcases least.eq_or_lt with same | normal
      · exact .inr same.symm
      · have many := full normal
        have above : (2 ^ 53 : ℚ) ≤ 2 * r + 1 := by linarith
        have bits : Nat.pow 2 52 = 2 ^ 52 := rfl
        norm_cast at above
        exact .inl (by omega)
    rw [shiftToTargetExponent_of_fits pos.ne' fits least]
    dsimp only
    rw [dif_neg pos.ne']
    apply rounded_pack unbounded
    rw [signed]
    exact nearest.roundsTo full
  · have unbounded : IsUnbounded (Nat.pow 2 52) (e + 1) :=
      ⟨by decide, by decide, by omega, .inl le_rfl⟩
    rw [shiftToTargetExponent_of_carry least]
    dsimp only
    rw [dif_neg unbounded.pos.ne']
    apply rounded_pack unbounded
    rw [signed]
    exact nearest.roundsTo_carry short least

/-- A whole number of units that are not too small is rounded correctly. -/
theorem rounded_pack_round (some : n ≠ 0) (s : Sign) :
    Rounded (signUnit s * (n * 2 ^ f)) (unpack Format.binary64
      (UnpackedFloat.pack Format.binary64 (UnpackedFloat.round Format.binary64 s n f))) := by
  unfold UnpackedFloat.round decreaseExponent
  rw [targetExponent_binary64, totalExponent]
  dsimp only
  generalize count : (f - max ((n.log2 : Int) + 1 + f - 53) (-1074)).toNat = places
  have value : (n * 2 ^ f : ℚ) = (n <<< places : Nat) * 2 ^ (f - places) := by
    rw [Nat.shiftLeft_eq, zpow_sub₀ two_ne_zero, zpow_natCast]
    push_cast
    field_simp
  have enough : Nat.pow 2 52 ≤ n <<< places ∨ f - places ≤ -1074 := by
    by_cases deep : f - places ≤ -1074
    · exact .inr deep
    · left
      rw [Nat.shiftLeft_eq]
      calc Nat.pow 2 52 ≤ 2 ^ (n.log2 + places) := Nat.pow_le_pow_right two_pos (by omega)
        _ = 2 ^ n.log2 * 2 ^ places := pow_add ..
        _ ≤ n * 2 ^ places := Nat.mul_le_mul_right _ (Nat.log2_self_le some)
  rw [value]
  exact rounded_pack_roundWithAccuracy (stands_exact _) enough s

theorem rounded_pack_normalize (k : Int) (f : Int) :
    Rounded (k * 2 ^ f) (unpack Format.binary64
      (UnpackedFloat.pack Format.binary64
        (UnpackedFloat.normalize Format.binary64 k f .positive))) := by
  unfold UnpackedFloat.normalize
  rcases lt_trichotomy k 0 with negative | rfl | positive
  · obtain ⟨n, rfl⟩ : ∃ n : Nat, k = -n := ⟨k.natAbs, by omega⟩
    have value : ((-n : Int) * 2 ^ f : ℚ) = signUnit .negative * (n * 2 ^ f) := by
      push_cast
      exact (neg_mul _ _).trans (neg_one_mul _).symm
    rw [compare_lt_iff_lt.mpr negative, value, neg_neg, Int.toNat_natCast]
    exact rounded_pack_round (by omega) .negative
  · rw [compare_eq_iff_eq.mpr rfl, Int.cast_zero, zero_mul]
    dsimp only
    rw [unpack_pack_zero]
    exact abs_zero.le.trans (two_zpow_pos _).le
  · obtain ⟨n, rfl⟩ : ∃ n : Nat, k = n := ⟨k.natAbs, by omega⟩
    have value : ((n : Int) * 2 ^ f : ℚ) = signUnit .positive * (n * 2 ^ f) := by
      rw [Int.cast_natCast]
      exact (one_mul _).symm
    rw [compare_gt_iff_gt.mpr positive, value, Int.toNat_natCast]
    exact rounded_pack_round (by omega) .positive

end Rounding

/-! ### Operations -/

section Operations

variable {x y : Float}

theorem rounded_zero (s : Sign) : Rounded 0 (.zero s) :=
  abs_zero.le.trans (two_zpow_pos _).le

/-- A finite double is what its number is rounded to. -/
theorem rounded_self (finite : x.isFinite = true) : Rounded (numberOf x) x.toModel.unpack := by
  obtain ⟨s, parts, value⟩ | ⟨s, m, e, pos, parts, -, value⟩ := numberOf_cases finite
  · rw [parts, value]
    exact rounded_zero s
  · rw [parts, value]
    change RoundsTo m e (signUnit s * (signUnit s * (m * 2 ^ e)))
    rw [← mul_assoc, signUnit_mul_self, one_mul]
    exact IsDouble.roundsTo

/-- Products are rounded correctly. -/
theorem rounded_mul (finite : x.isFinite = true) (finiteToo : y.isFinite = true) :
    Rounded (numberOf x * numberOf y) (x * y).toModel.unpack := by
  change Rounded _ (unpack Format.binary64 (UnpackedFloat.pack Format.binary64
    (UnpackedFloat.mul Format.binary64 x.toModel.unpack y.toModel.unpack)))
  obtain ⟨s, left, value⟩ | ⟨s, m, e, pos, left, double, value⟩ := numberOf_cases finite
  · rw [value, zero_mul, left]
    obtain ⟨t, right, -⟩ | ⟨t, n, f, posToo, right, -, -⟩ := numberOf_cases finiteToo
    · rw [right]
      exact (unpack_pack_zero (s * t)).symm ▸ rounded_zero (s * t)
    · rw [right]
      exact (unpack_pack_zero (s * t)).symm ▸ rounded_zero (s * t)
  · obtain ⟨t, right, valueToo⟩ | ⟨t, n, f, posToo, right, doubleToo, valueToo⟩ :=
      numberOf_cases finiteToo
    · rw [valueToo, mul_zero, left, right]
      exact (unpack_pack_zero (s * t)).symm ▸ rounded_zero (s * t)
    · have exact : signUnit s * (m * 2 ^ e) * (signUnit t * (n * 2 ^ f)) =
          signUnit (s * t) * (((m * n : Nat) : ℚ) * 2 ^ (e + f)) := by
        rw [signUnit_mul, Nat.cast_mul, zpow_add₀ two_ne_zero]
        ring
      have enough : Nat.pow 2 52 ≤ m * n ∨ e + f ≤ -1074 := by
        rcases double.full with full | rfl
        · exact .inl (full.trans (Nat.le_mul_of_pos_right m posToo))
        · rcases doubleToo.full with full | rfl
          · exact .inl (full.trans (Nat.le_mul_of_pos_left n pos))
          · exact .inr (by decide)
      rw [value, valueToo, exact, left, right]
      exact rounded_pack_roundWithAccuracy (stands_exact (m * n)) enough (s * t)

/-- Magnitudes are brought to a lesser exponent before they are added. -/
theorem apply_decreaseExponent (s : Sign) (m : Nat) {e f : Int} (below : f ≤ e) :
    ((s.apply (decreaseExponent m e f).1 : Int) : ℚ) * 2 ^ f = signUnit s * (m * 2 ^ e) := by
  obtain ⟨places, rfl⟩ : ∃ places : Nat, e = f + places := ⟨(e - f).toNat, by omega⟩
  have magnitude : (((decreaseExponent m (f + places) f).1 : Nat) : ℚ) * 2 ^ f =
      m * 2 ^ (f + places : Int) := by
    rw [decreaseExponent, add_sub_cancel_left, Int.toNat_natCast, Nat.shiftLeft_eq,
      zpow_add₀ two_ne_zero, zpow_natCast]
    push_cast
    ring
  rw [← magnitude]
  cases s with
  | positive => simp [Sign.apply, signUnit]
  | negative => simp [Sign.apply, signUnit]

/-- Sums are rounded correctly. -/
theorem rounded_add (finite : x.isFinite = true) (finiteToo : y.isFinite = true) :
    Rounded (numberOf x + numberOf y) (x + y).toModel.unpack := by
  have repacked (z : Float) : unpack Format.binary64
      (UnpackedFloat.pack Format.binary64 z.toModel.unpack) = z.toModel.unpack :=
    unpack_pack (canonical_unpack z.toModel.toBits.toBitVec)
  change Rounded _ (unpack Format.binary64 (UnpackedFloat.pack Format.binary64
    (UnpackedFloat.add Format.binary64 x.toModel.unpack y.toModel.unpack)))
  obtain ⟨s, left, value⟩ | ⟨s, m, e, pos, left, -, value⟩ := numberOf_cases finite
  · obtain ⟨t, right, valueToo⟩ | ⟨t, n, f, posToo, right, -, -⟩ := numberOf_cases finiteToo
    · have zero : ∃ r, UnpackedFloat.add Format.binary64 (.zero s) (.zero t) = .zero r := by
        cases s <;> cases t <;> exact ⟨_, rfl⟩
      obtain ⟨r, sum⟩ := zero
      rw [value, valueToo, add_zero, left, right, sum, unpack_pack_zero]
      exact rounded_zero r
    · have sum : UnpackedFloat.add Format.binary64 x.toModel.unpack y.toModel.unpack =
          y.toModel.unpack := by
        rw [left, right]
        rfl
      rw [value, zero_add, sum, repacked]
      exact rounded_self finiteToo
  · obtain ⟨t, right, valueToo⟩ | ⟨t, n, f, posToo, right, -, valueToo⟩ :=
      numberOf_cases finiteToo
    · have sum : UnpackedFloat.add Format.binary64 x.toModel.unpack y.toModel.unpack =
          x.toModel.unpack := by
        rw [left, right]
        rfl
      rw [valueToo, add_zero, sum, repacked]
      exact rounded_self finite
    · rw [value, valueToo, left, right, ← apply_decreaseExponent s m (min_le_left e f),
        ← apply_decreaseExponent t n (min_le_right e f), ← add_mul, ← Int.cast_add]
      exact rounded_pack_normalize _ (min e f)

/-- Quotients are rounded correctly. -/
theorem rounded_div (finite : x.isFinite = true) (finiteToo : y.isFinite = true)
    (divisor : numberOf y ≠ 0) : Rounded (numberOf x / numberOf y) (x / y).toModel.unpack := by
  change Rounded _ (unpack Format.binary64 (UnpackedFloat.pack Format.binary64
    (UnpackedFloat.div Format.binary64 x.toModel.unpack y.toModel.unpack)))
  obtain ⟨t, -, zero⟩ | ⟨t, n, f, posToo, right, -, valueToo⟩ := numberOf_cases finiteToo
  · exact absurd zero divisor
  obtain ⟨s, left, value⟩ | ⟨s, m, e, pos, left, -, value⟩ := numberOf_cases finite
  · rw [value, zero_div, left, right]
    exact (unpack_pack_zero (s / t)).symm ▸ rounded_zero (s / t)
  · obtain ⟨places, core, enough, -⟩ := divCore_eq m e n f
    have exact : signUnit s * (m * 2 ^ e) / (signUnit t * (n * 2 ^ f)) =
        signUnit (s / t) * ((m <<< places : Nat) / n * 2 ^ (e - f - places)) := by
      have some : (n : ℚ) ≠ 0 := by exact_mod_cast posToo.ne'
      have side : signUnit t ≠ 0 := left_ne_zero_of_mul_eq_one (signUnit_mul_self t)
      rw [signUnit_div, Nat.shiftLeft_eq, Nat.cast_mul, Nat.cast_pow, Nat.cast_ofNat,
        zpow_sub₀ two_ne_zero, zpow_sub₀ two_ne_zero, zpow_natCast]
      field_simp
    rw [value, valueToo, exact, left, right]
    unfold UnpackedFloat.div
    dsimp only
    rw [core]
    exact rounded_pack_roundWithAccuracy (stands_div _ posToo)
      (enough.imp_left (pow_le_div pos posToo)) (s / t)

end Operations

/-! ### What is nearest -/

section Nearness

variable {x y : Float} {q : ℚ}

/-- What rounds to a positive double is greater than half of the smallest one. -/
theorem RoundsTo.smallest_lt {m : Nat} {e : Int} (double : IsDouble m e) (rounds : RoundsTo m e q) :
    (2 : ℚ) ^ (-1075 : Int) < q := by
  have least := double.least
  have half : (2 : ℚ) ^ (-1075 : Int) = 2 * 2 ^ (-1076 : Int) := by
    rw [← zpow_one_add₀ two_ne_zero]
    rfl
  have place : (2 : ℚ) ^ (-1076 : Int) ≤ 2 ^ (e - 2) :=
    zpow_le_zpow_right₀ one_le_two (by omega)
  have positive := two_zpow_pos (-1076)
  rw [half]
  rcases (Nat.succ_le_of_lt double.pos).eq_or_lt with rfl | more
  · -- The smallest double is odd, so that half of it is not rounded to it.
    have sparse : ¬ IsDense 1 e := fun dense => absurd dense.1 (by decide)
    rw [RoundsTo, if_neg sparse, if_neg (by decide)] at rounds
    refine lt_of_le_of_lt ?_ rounds.1
    rw [Nat.cast_one]
    linarith
  · have two : (2 : ℚ) ≤ m := by exact_mod_cast more
    calc 2 * (2 : ℚ) ^ (-1076 : Int) < 6 * 2 ^ (-1076 : Int) := by linarith
      _ ≤ 6 * 2 ^ (e - 2) := by linarith
      _ ≤ (4 * m - if IsDense m e then 1 else 2) * 2 ^ (e - 2) := by
          apply mul_le_mul_of_nonneg_right _ (two_zpow_pos _).le
          split <;> linarith
      _ ≤ q := rounds.le.1

theorem abs_eq_of_roundsTo {s : Sign} {m : Nat} {e : Int} (double : IsDouble m e)
    (rounds : RoundsTo m e (signUnit s * q)) : |q| = signUnit s * q := by
  rw [← abs_signUnit_mul s, abs_of_pos ((two_zpow_pos _).trans (rounds.smallest_lt double))]

/-- A result is a zero exactly if the exact one is at most half of the smallest double. -/
theorem Rounded.beq_zero_iff (rounded : Rounded q x.toModel.unpack) :
    (x == 0) = true ↔ |q| ≤ 2 ^ (-1075 : Int) := by
  change x.toModel.unpack.beq (.zero .positive) = true ↔ _
  cases parts : x.toModel.unpack with
  | notANumber =>
      rw [parts] at rounded
      exact rounded.elim
  | zero s =>
      rw [parts] at rounded
      exact iff_of_true rfl rounded
  | infinity s =>
      rw [parts] at rounded
      have large : (2 : ℚ) ^ (-1075 : Int) < |q| := by
        rw [← abs_signUnit_mul s]
        exact ((zpow_lt_zpow_right₀ one_lt_two (by decide)).trans_le rounded).trans_le
          (le_abs_self _)
      refine iff_of_false ?_ (not_le.mpr large)
      cases s <;> exact Bool.false_ne_true
  | finite s m e pos =>
      rw [parts] at rounded
      have double := isDouble_of_unpack parts
      refine iff_of_false ?_ (not_le.mpr ?_)
      · cases s <;> exact Bool.false_ne_true
      · rw [abs_eq_of_roundsTo double rounded]
        exact rounded.smallest_lt double

/-- What is not huge has a finite result. -/
theorem Rounded.isFinite (rounded : Rounded q x.toModel.unpack) (small : |q| < 2 ^ (1023 : Int)) :
    x.isFinite = true := by
  change x.toModel.unpack.isFinite = true
  cases parts : x.toModel.unpack with
  | notANumber =>
      rw [parts] at rounded
      exact rounded.elim
  | infinity s =>
      rw [parts] at rounded
      have large : (2 : ℚ) ^ (1023 : Int) ≤ |q| := by
        rw [← abs_signUnit_mul s]
        exact le_trans rounded (le_abs_self _)
      exact absurd small (not_lt.mpr large)
  | zero | finite => rfl

theorem sign_eq_of_sides {s t : Sign} (side : 0 ≤ signUnit s * q) (sideToo : 0 < signUnit t * q) :
    t = s := by
  cases s with
  | positive =>
      cases t with
      | positive => rfl
      | negative =>
          rw [signUnit, one_mul] at side
          rw [signUnit, neg_one_mul] at sideToo
          linarith
  | negative =>
      cases t with
      | positive =>
          rw [signUnit, neg_one_mul] at side
          rw [signUnit, one_mul] at sideToo
          linarith
      | negative => rfl

/-- Whether a double lies on one side of zero, which no double does that is no number. -/
def IsSided (s : Sign) (x : Float) : Prop :=
  x.isFinite = true ∧ 0 ≤ signUnit s * numberOf x ∨ x.toModel.unpack = .infinity s

/-- A result lies on the side of zero on which the exact one lies. -/
theorem Rounded.isSided {s : Sign} (rounded : Rounded q x.toModel.unpack)
    (side : 0 ≤ signUnit s * q) : IsSided s x := by
  unfold IsSided
  cases parts : x.toModel.unpack with
  | notANumber =>
      rw [parts] at rounded
      exact rounded.elim
  | zero t =>
      refine .inl ⟨?_, ?_⟩
      · change x.toModel.unpack.isFinite = true
        rw [parts]
        rfl
      · rw [numberOf_of_zero parts, mul_zero]
  | finite t m e pos =>
      rw [parts] at rounded
      have above := (two_zpow_pos _).trans (rounded.smallest_lt (isDouble_of_unpack parts))
      obtain rfl := sign_eq_of_sides side above
      refine .inl ⟨isFinite_of_unpack parts, ?_⟩
      rw [numberOf_of_unpack parts, ← mul_assoc, signUnit_mul_self, one_mul]
      exact (magnitude_pos pos e).le
  | infinity t =>
      rw [parts] at rounded
      exact .inr (sign_eq_of_sides side ((two_zpow_pos _).trans_le rounded) ▸ rfl)

/-- The magnitude of a finite double on one side of zero. -/
theorem signed_cases (finite : x.isFinite = true) (s : Sign) :
    signUnit s * numberOf x ≤ 0 ∨ ∃ n f, IsDouble n f ∧ signUnit s * numberOf x = n * 2 ^ f := by
  obtain ⟨-, -, zero⟩ | ⟨t, n, f, pos, -, double, value⟩ := numberOf_cases finite
  · exact .inl (by rw [zero, mul_zero])
  · have magnitude := magnitude_pos pos f
    rw [value, ← mul_assoc, ← signUnit_mul]
    cases product : s * t with
    | positive => exact .inr ⟨n, f, double, one_mul _⟩
    | negative => exact .inl (by rw [signUnit, neg_one_mul]; exact (neg_neg_of_pos magnitude).le)

/-- No positive double is nearer to a number than the one that it rounds to. -/
theorem RoundsTo.abs_sub_le {m n : Nat} {e f : Int} (double : IsDouble m e) (rounds : RoundsTo m e q)
    (other : IsDouble n f) : |m * 2 ^ e - q| ≤ |n * 2 ^ f - q| := by
  obtain ⟨low, high⟩ := rounds.le
  have quarter : (2 : ℚ) ^ e = 4 * 2 ^ (e - 2) := by
    rw [zpow_sub₀ two_ne_zero]
    ring
  have half : (2 : ℚ) ^ (e - 1) = 2 * 2 ^ (e - 2) := by
    rw [← zpow_one_add₀ two_ne_zero]
    congr 1
    ring
  have positive := two_zpow_pos (e - 2)
  rcases lt_trichotomy (n * 2 ^ f : ℚ) (m * 2 ^ e) with less | same | greater
  · have down := double.step_down other less
    rw [half] at down
    rw [quarter] at less ⊢
    have near : |m * (4 * 2 ^ (e - 2)) - q| ≤ q - n * 2 ^ f := by
      rw [abs_le]
      split at down
      · rename_i dense
        rw [if_pos dense] at low
        constructor <;> linarith
      · rename_i sparse
        rw [if_neg sparse] at low
        constructor <;> linarith
    exact near.trans ((le_abs_self _).trans (abs_sub_comm _ _).le)
  · rw [same]
  · have up := double.step_up other greater
    rw [quarter] at greater up ⊢
    have near : |m * (4 * 2 ^ (e - 2)) - q| ≤ n * 2 ^ f - q := by
      rw [abs_le]
      constructor <;> linarith
    exact near.trans (le_abs_self _)

/-- Zero is not nearer either. -/
theorem RoundsTo.abs_sub_le_self {m : Nat} {e : Int} (double : IsDouble m e)
    (rounds : RoundsTo m e q) : |m * 2 ^ e - q| ≤ q := by
  obtain ⟨low, high⟩ := rounds.le
  have quarter : (2 : ℚ) ^ e = 4 * 2 ^ (e - 2) := by
    rw [zpow_sub₀ two_ne_zero]
    ring
  have positive := two_zpow_pos (e - 2)
  have one : 2 ^ (e - 2) ≤ m * (2 : ℚ) ^ (e - 2) :=
    le_mul_of_one_le_left positive.le (by exact_mod_cast double.pos)
  have least : (4 * m - 2) * 2 ^ (e - 2) ≤ q := by
    refine le_trans (mul_le_mul_of_nonneg_right ?_ positive.le) low
    split <;> linarith
  rw [quarter, abs_le]
  constructor <;> linarith

/-- No finite double is nearer to the exact result than the one that is made of it. -/
theorem Rounded.nearest (rounded : Rounded q x.toModel.unpack) (finite : x.isFinite = true)
    (finiteToo : y.isFinite = true) : |numberOf x - q| ≤ |numberOf y - q| := by
  obtain ⟨s, parts, value⟩ | ⟨s, m, e, pos, parts, double, value⟩ := numberOf_cases finite
  · rw [parts] at rounded
    have tiny : |q| ≤ 2 ^ (-1075 : Int) := rounded
    rw [value]
    obtain ⟨-, -, zero⟩ | ⟨t, n, f, posToo, -, doubleToo, valueToo⟩ := numberOf_cases finiteToo
    · rw [zero]
    · have large : 2 * 2 ^ (-1075 : Int) ≤ |numberOf y| := by
        have one : (1 : ℚ) ≤ n := by exact_mod_cast posToo
        rw [valueToo, abs_signUnit_mul, abs_of_pos (magnitude_pos posToo f),
          ← zpow_one_add₀ two_ne_zero]
        calc (2 : ℚ) ^ (1 + -1075 : Int) ≤ 2 ^ f :=
              zpow_le_zpow_right₀ one_le_two doubleToo.least
          _ ≤ n * 2 ^ f := le_mul_of_one_le_left (two_zpow_pos f).le one
      have apart := abs_sub_abs_le_abs_sub (numberOf y) q
      rw [zero_sub, abs_neg]
      linarith
  · rw [parts] at rounded
    have rounds : RoundsTo m e (signUnit s * q) := rounded
    -- Both sides are looked at from the side of zero on which the double lies.
    have turned (p : ℚ) : |p - q| = |signUnit s * p - signUnit s * q| := by
      rw [← mul_sub, abs_signUnit_mul]
    have upright : signUnit s * numberOf x = m * 2 ^ e := by
      rw [value, ← mul_assoc, signUnit_mul_self, one_mul]
    rw [turned, turned, upright]
    obtain below | ⟨n, f, doubleToo, valueToo⟩ := signed_cases finiteToo s
    · exact (rounds.abs_sub_le_self double).trans
        ((le_sub_self_iff _).mpr below |>.trans ((le_abs_self _).trans (abs_sub_comm _ _).le))
    · rw [valueToo]
      exact rounds.abs_sub_le double doubleToo

end Nearness

end QuantumAssembler.Decimal
