import Mathlib.Algebra.Order.Field.Power
import Mathlib.Algebra.Order.Field.Rat
import Mathlib.Tactic.FieldSimp
import Mathlib.Tactic.Linarith
import Mathlib.Tactic.Ring
import QuantumAssembler.Decimal.Binary

/-!
Module: QuantumAssembler.Proofs.Decimal.Rounding
Purpose: Rounding to a double, on rational numbers. A mantissa that is followed by a round bit and a
  sticky bit stands for a number between two places; shifting it halves the number, and rounding it
  gives the nearest mantissa. A number that is known with enough bits is rounded to the double whose
  half way marks it lies between.
Main exports: Stands, IsDouble, RoundsTo, roundWithAccuracy_of_roundsTo
-/

namespace QuantumAssembler.Decimal

open Float.Model Float.Model.UnpackedFloat

/-! ### What an extended mantissa stands for -/

/-- The numbers that a mantissa with its round bit and its sticky bit stands for: the mantissa
    itself, half a unit more, or anything between two of these places. -/
def Stands : ExtendedMantissa → ℚ → Prop
  | ⟨m, false, false⟩, y => y = m
  | ⟨m, false, true⟩, y => m < y ∧ y < m + 1 / 2
  | ⟨m, true, false⟩, y => y = m + 1 / 2
  | ⟨m, true, true⟩, y => m + 1 / 2 < y ∧ y < m + 1

/-- A number that rounds to `n`: it is at most half a unit away, and that much only if `n` is
    even. -/
def Nearest (n : Nat) (y : ℚ) : Prop :=
  if n % 2 = 0 then 2 * n - 1 ≤ 2 * y ∧ 2 * y ≤ 2 * n + 1
  else 2 * n - 1 < 2 * y ∧ 2 * y < 2 * n + 1

theorem Nearest.le {n : Nat} {y : ℚ} (nearest : Nearest n y) :
    2 * n - 1 ≤ 2 * y ∧ 2 * y ≤ 2 * n + 1 := by
  unfold Nearest at nearest
  split at nearest
  · exact nearest
  · exact ⟨nearest.1.le, nearest.2.le⟩

/-- Half a unit away, only even numbers are rounded to. -/
theorem Nearest.even_of_eq {n : Nat} {y : ℚ} (nearest : Nearest n y)
    (half : 2 * y = 2 * n - 1 ∨ 2 * y = 2 * n + 1) : n % 2 = 0 := by
  by_contra odd
  rw [Nearest, if_neg odd] at nearest
  rcases half with half | half
  · linarith
  · linarith

namespace Stands

variable {em : ExtendedMantissa} {y : ℚ}

theorem bounds (stands : Stands em y) : em.mantissa ≤ y ∧ y < em.mantissa + 1 := by
  obtain ⟨m, round, sticky⟩ := em
  cases round <;> cases sticky <;> simp only [Stands] at stands ⊢
  · constructor <;> linarith
  · constructor <;> linarith
  · constructor <;> linarith
  · constructor <;> linarith

/-- A shift to the right halves the number. -/
theorem shiftRightOne (stands : Stands em y) : Stands em.shiftRightOne (y / 2) := by
  obtain ⟨m, round, sticky⟩ := em
  have whole : (m : ℚ) = 2 * (m / 2 : Nat) + (m % 2 : Nat) := by
    exact_mod_cast (Nat.div_add_mod m 2).symm
  obtain even | odd := Nat.mod_two_eq_zero_or_one m
  · rw [even, Nat.cast_zero, add_zero] at whole
    cases round <;> cases sticky <;>
      simp only [Stands, ExtendedMantissa.shiftRightOne, even, bne_self_eq_false, Bool.or_false,
        Bool.or_true] at stands ⊢
    · linarith
    · constructor <;> linarith
    · constructor <;> linarith
    · constructor <;> linarith
  · rw [odd, Nat.cast_one] at whole
    cases round <;> cases sticky <;>
      simp only [Stands, ExtendedMantissa.shiftRightOne, odd, Bool.or_false,
        Bool.or_true] at stands ⊢
    · simp; linarith
    · constructor <;> linarith
    · constructor <;> linarith
    · constructor <;> linarith

theorem shiftRight (stands : Stands em y) (places : Nat) :
    Stands (em >>> places) (y / 2 ^ places) := by
  change Stands (places.repeat ExtendedMantissa.shiftRightOne em) _
  induction places with
  | zero => simpa [Nat.repeat] using stands
  | succ places ih =>
      rw [Nat.repeat, pow_succ, ← div_div]
      exact ih.shiftRightOne

/-- Two whole numbers that are less than a unit apart are equal. -/
theorem eq_of_near {m n : Nat} (above : (m : ℚ) < n + 1) (below : (n : ℚ) < m + 1) : m = n := by
  norm_cast at above below
  omega

/-- An extended mantissa is rounded to the nearest number, and half way to the even one. -/
theorem roundedMantissa (stands : Stands em y) {n : Nat} (nearest : Nearest n y) :
    em.roundedMantissa = n := by
  obtain ⟨low, high⟩ := nearest.le
  obtain ⟨m, round, sticky⟩ := em
  cases round <;> cases sticky <;> simp only [Stands] at stands
  · change m = n
    exact eq_of_near (by linarith) (by linarith)
  · change m = n
    exact eq_of_near (by linarith) (by linarith)
  · have above : (m : ℚ) ≤ n := by linarith
    have below : (n : ℚ) ≤ m + 1 := by linarith
    norm_cast at above below
    change m + m % 2 = n
    obtain rfl | rfl : n = m ∨ n = m + 1 := by omega
    · have even := nearest.even_of_eq (.inr (by linarith))
      omega
    · have even := nearest.even_of_eq (.inl (by push_cast; linarith))
      omega
  · have above : (m : ℚ) < n := by linarith
    have below : (n : ℚ) < m + 2 := by linarith
    norm_cast at above below
    change m + 1 = n
    omega

end Stands

/-! ### Rounding to a double -/

theorem targetExponent_binary64 (total : Int) :
    Format.binary64.targetExponent total = max (total - 53) (-1074) := by
  rfl

/-- A mantissa that fits keeps its exponent. -/
theorem shiftToTargetExponent_of_fits {n : Nat} {e : Int} (some : n ≠ 0) (fits : n < Nat.pow 2 53)
    (least : -1074 ≤ e) :
    shiftToTargetExponent Format.binary64 n e .exact = (⟨n, false, false⟩, e) := by
  have bits : n.log2 < 53 := (Nat.log2_lt some).mpr fits
  have places : (Format.binary64.targetExponent (totalExponent n e) - e).toNat = 0 := by
    rw [targetExponent_binary64, totalExponent]
    omega
  rw [shiftToTargetExponent, shiftToExponent, places]
  simp only [Int.natCast_zero, add_zero]
  rfl

/-- A mantissa that is one bit too long is halved. -/
theorem shiftToTargetExponent_of_carry {e : Int} (least : -1074 ≤ e) :
    shiftToTargetExponent Format.binary64 (Nat.pow 2 53) e .exact =
      (⟨Nat.pow 2 52, false, false⟩, e + 1) := by
  have bits : (Nat.pow 2 53).log2 = 53 := by decide +kernel
  have places :
      (Format.binary64.targetExponent (totalExponent (Nat.pow 2 53) e) - e).toNat = 1 := by
    rw [targetExponent_binary64, totalExponent, bits]
    omega
  rw [shiftToTargetExponent, shiftToExponent, places]
  rfl

/-- The mantissa and the exponent of a positive double: the mantissa has all its bits, unless the
    exponent is the smallest. -/
structure IsDouble (mantissa : Nat) (exponent : Int) : Prop where
  pos : 0 < mantissa
  fits : mantissa < Nat.pow 2 53
  least : -1074 ≤ exponent
  top : exponent ≤ 971
  full : Nat.pow 2 52 ≤ mantissa ∨ exponent = -1074

/-- Whether the next smaller double is only half as far away as the next larger one. -/
def IsDense (mantissa : Nat) (exponent : Int) : Prop :=
  mantissa = Nat.pow 2 52 ∧ -1074 < exponent

instance (mantissa : Nat) (exponent : Int) : Decidable (IsDense mantissa exponent) :=
  inferInstanceAs (Decidable (_ ∧ _))

/-- The numbers that round to a positive double reach half way to its two neighbours, and there only
    if its mantissa is even. They are counted in quarters of its last place. -/
def RoundsTo (mantissa : Nat) (exponent : Int) (y : ℚ) : Prop :=
  let low : ℚ := (4 * mantissa - if IsDense mantissa exponent then 1 else 2) * 2 ^ (exponent - 2)
  let high : ℚ := (4 * mantissa + 2) * 2 ^ (exponent - 2)
  if mantissa % 2 = 0 then low ≤ y ∧ y ≤ high else low < y ∧ y < high

theorem RoundsTo.le {m : Nat} {e : Int} {y : ℚ} (rounds : RoundsTo m e y) :
    (4 * m - if IsDense m e then 1 else 2) * 2 ^ (e - 2) ≤ y ∧ y ≤ (4 * m + 2) * 2 ^ (e - 2) := by
  unfold RoundsTo at rounds
  dsimp only at rounds
  split at rounds
  · exact rounds
  · exact ⟨rounds.1.le, rounds.2.le⟩

theorem two_zpow_pos (e : Int) : (0 : ℚ) < 2 ^ e :=
  zpow_pos (by norm_num) e

/-- The same, counted in units of the last place. -/
theorem roundsTo_mul_zpow {m : Nat} {e : Int} {y : ℚ} :
    RoundsTo m e (y * 2 ^ e) ↔
      if m % 2 = 0 then 4 * m - (if IsDense m e then 1 else 2) ≤ 4 * y ∧ 4 * y ≤ 4 * m + 2
      else 4 * m - (if IsDense m e then 1 else 2) < 4 * y ∧ 4 * y < 4 * m + 2 := by
  have quarter : y * 2 ^ e = 4 * y * 2 ^ (e - 2) := by
    rw [zpow_sub₀ (by norm_num)]
    ring
  have unit := two_zpow_pos (e - 2)
  simp only [RoundsTo, quarter, mul_le_mul_iff_left₀ unit, mul_lt_mul_iff_left₀ unit]

/-- Counted in units of the last place, the numbers that round to a double are nearest to its
    mantissa. -/
theorem RoundsTo.nearest {m : Nat} {e : Int} {y : ℚ} (rounds : RoundsTo m e (y * 2 ^ e)) :
    Nearest m y := by
  rw [roundsTo_mul_zpow] at rounds
  unfold Nearest
  split at rounds
  · rename_i even
    rw [if_pos even]
    split at rounds
    · constructor <;> linarith
    · constructor <;> linarith
  · rename_i odd
    rw [if_neg odd]
    split at rounds
    · constructor <;> linarith
    · constructor <;> linarith

/-- In front of a power of two, where the units are half as large, the numbers that round to it are
    nearest to the mantissa that is one bit too long. -/
theorem RoundsTo.nearest_carry {e : Int} {y : ℚ} (dense : -1074 < e)
    (rounds : RoundsTo (Nat.pow 2 52) e (y * 2 ^ e)) (front : y < 2 ^ 52) :
    Nearest (Nat.pow 2 53) (2 * y) := by
  have quarters : (4 * (Nat.pow 2 52 : Nat) - 1 : ℚ) ≤ 4 * y := by
    rw [roundsTo_mul_zpow, if_pos (by decide), if_pos ⟨rfl, dense⟩] at rounds
    exact rounds.1
  rw [Nearest, if_pos (by decide)]
  norm_num at quarters front ⊢
  constructor <;> linarith

theorem two_zpow_lt {a b : Int} {y : ℚ} (below : 2 ^ a ≤ y) (above : y < 2 ^ b) : a < b :=
  (zpow_lt_zpow_iff_right₀ (by norm_num)).mp (below.trans_lt above)

/-- A number is a power of two up to its last bit. -/
theorem zpow_le_mul_zpow {n : Nat} (some : n ≠ 0) (f : Int) :
    (2 : ℚ) ^ (n.log2 + f) ≤ n * 2 ^ f := by
  rw [zpow_add₀ (by norm_num), zpow_natCast, mul_le_mul_iff_left₀ (two_zpow_pos f)]
  exact_mod_cast Nat.log2_self_le some

theorem mul_zpow_le_zpow (n : Nat) (f : Int) :
    (n + 1 : ℚ) * 2 ^ f ≤ 2 ^ (n.log2 + 1 + f) := by
  rw [zpow_add₀ (by norm_num), mul_le_mul_iff_left₀ (two_zpow_pos f)]
  exact_mod_cast Nat.lt_log2_self

/-! ### The exponent of the double that a number rounds to -/

namespace RoundsTo

variable {m : Nat} {e : Int} {y : ℚ}

theorem lt_zpow (double : IsDouble m e) (rounds : RoundsTo m e y) : y < 2 ^ (e + 53) := by
  have unit := two_zpow_pos (e - 2)
  have fits : (m : ℚ) + 1 ≤ 2 ^ 53 := by exact_mod_cast double.fits
  calc y ≤ (4 * m + 2) * 2 ^ (e - 2) := rounds.le.2
    _ < 2 ^ 55 * 2 ^ (e - 2) := by
        apply mul_lt_mul_of_pos_right _ unit
        linarith
    _ = 2 ^ (e + 53) := by
        rw [← zpow_natCast, ← zpow_add₀ (by norm_num)]
        congr 1
        push_cast
        ring

/-- The lower end, for a mantissa that has all its bits. -/
theorem full_le (double : IsDouble m e) (rounds : RoundsTo m e y) (normal : -1074 < e) :
    (2 ^ 54 - 1) * 2 ^ (e - 2) ≤ y := by
  have unit := two_zpow_pos (e - 2)
  have full : (2 : ℚ) ^ 52 ≤ m := by
    have := double.full.resolve_right normal.ne'
    exact_mod_cast this
  refine le_trans (mul_le_mul_of_nonneg_right ?_ unit.le) rounds.le.1
  by_cases dense : IsDense m e
  · rw [if_pos dense]
    linarith
  · have next : (2 : ℚ) ^ 52 + 1 ≤ m := by
      have more : Nat.pow 2 52 < m :=
        lt_of_le_of_ne (double.full.resolve_right normal.ne')
          fun same => dense ⟨same.symm, normal⟩
      exact_mod_cast more
    rw [if_neg dense]
    linarith

theorem zpow_lt (double : IsDouble m e) (rounds : RoundsTo m e y) (normal : -1074 < e) :
    2 ^ (e + 51) < y := by
  refine lt_of_lt_of_le ?_ (rounds.full_le double normal)
  rw [show e + 51 = 53 + (e - 2) by ring, zpow_add₀ (by norm_num),
    mul_lt_mul_iff_left₀ (two_zpow_pos (e - 2))]
  norm_num

/-- Only a power of two is rounded to from below itself with one bit less. -/
theorem eq_pow_of_lt (double : IsDouble m e) (rounds : RoundsTo m e y) (normal : -1074 < e)
    (front : y < 2 ^ (e + 52)) : m = Nat.pow 2 52 := by
  by_contra other
  have next : (2 : ℚ) ^ 52 + 1 ≤ m := by
    have more := lt_of_le_of_ne (double.full.resolve_right normal.ne') (Ne.symm other)
    exact_mod_cast more
  have low := rounds.le.1
  rw [if_neg fun dense => other dense.1] at low
  rw [show e + 52 = 54 + (e - 2) by ring, zpow_add₀ (by norm_num)] at front
  have less := (mul_lt_mul_iff_left₀ (two_zpow_pos (e - 2))).mp (low.trans_lt front)
  linarith

/-- The exponent to which a number is rounded is that of the double, or one less in front of a power
    of two. -/
theorem targetExponent (double : IsDouble m e) (rounds : RoundsTo m e y) {n : Nat} {f : Int}
    (low : n * 2 ^ f ≤ y) (high : y < (n + 1) * 2 ^ f) (enough : Nat.pow 2 52 ≤ n ∨ f = -1074) :
    f ≤ Format.binary64.targetExponent (totalExponent n f) ∧
      (Format.binary64.targetExponent (totalExponent n f) = e ∨
        (Format.binary64.targetExponent (totalExponent n f) = e - 1 ∧ m = Nat.pow 2 52 ∧
          -1074 < e ∧ y < 2 ^ (e + 52))) := by
  have least := double.least
  have above : y < 2 ^ (n.log2 + 1 + f) := high.trans_le (mul_zpow_le_zpow n f)
  have reach : -1074 < e → e + 51 < n.log2 + 1 + f := fun normal =>
    two_zpow_lt (rounds.zpow_lt double normal).le above
  have bound : n.log2 + f < e + 53 ∨ f = -1074 ∧ n = 0 := by
    by_cases none : n = 0
    · exact .inr ⟨enough.resolve_left (by simp [none]), none⟩
    · exact .inl (two_zpow_lt ((zpow_le_mul_zpow none f).trans low) (rounds.lt_zpow double))
  have long : 52 ≤ n.log2 ∨ f = -1074 :=
    enough.imp_left fun many => (Nat.le_log2 (by rintro rfl; simp at many)).mpr many
  rw [targetExponent_binary64, totalExponent]
  have zero : n = 0 → n.log2 = 0 := by
    rintro rfl
    exact Nat.log2_zero
  refine ⟨by omega, ?_⟩
  by_cases same : max ((n.log2 : Int) + 1 + f - 53) (-1074) = e
  · exact .inl same
  · have normal : -1074 < e := by omega
    have front : y < 2 ^ (e + 52) :=
      above.trans_le (zpow_le_zpow_right₀ (by norm_num) (by omega))
    exact .inr ⟨by omega, rounds.eq_pow_of_lt double normal front, normal, front⟩

end RoundsTo

@[simp]
theorem ofMantissaAndAccuracy_mantissa (n : Nat) (accuracy : Accuracy) :
    (ExtendedMantissa.ofMantissaAndAccuracy n accuracy).mantissa = n := by
  rcases accuracy with _ | (_ | _ | _) <;> rfl

/-- A number that is known with enough bits is rounded to the double that it rounds to. -/
theorem roundWithAccuracy_of_roundsTo {m : Nat} {e : Int} (double : IsDouble m e) {n : Nat}
    {f : Int} {accuracy : Accuracy} {y : ℚ}
    (stands : Stands (ExtendedMantissa.ofMantissaAndAccuracy n accuracy) y)
    (enough : Nat.pow 2 52 ≤ n ∨ f = -1074) (rounds : RoundsTo m e (y * 2 ^ f)) (s : Sign) :
    roundWithAccuracy Format.binary64 s n f accuracy = .finite s m e double.pos := by
  have unit := two_zpow_pos f
  obtain ⟨low, high⟩ := stands.bounds
  rw [ofMantissaAndAccuracy_mantissa] at low high
  obtain ⟨more, target⟩ := rounds.targetExponent double
    (mul_le_mul_of_nonneg_right low unit.le) (mul_lt_mul_of_pos_right high unit) enough
  generalize reached : Format.binary64.targetExponent (totalExponent n f) = t at more target
  obtain ⟨places, rfl⟩ : ∃ places : Nat, t = f + places := ⟨(t - f).toNat, by omega⟩
  have shifted : shiftToTargetExponent Format.binary64 n f accuracy =
      (ExtendedMantissa.ofMantissaAndAccuracy n accuracy >>> places, f + places) := by
    rw [shiftToTargetExponent, shiftToExponent, reached]
    have count : (f + places - f).toNat = places := by omega
    rw [count]
  have still := stands.shiftRight places
  have value : y * 2 ^ f = y / 2 ^ places * 2 ^ (f + places : Int) := by
    rw [zpow_add₀ (by norm_num), zpow_natCast]
    field_simp
  rw [value] at rounds
  unfold roundWithAccuracy
  rw [shifted]
  dsimp only
  rcases target with same | ⟨below, rfl, normal, front⟩
  · rw [same] at rounds ⊢
    rw [still.roundedMantissa rounds.nearest,
      shiftToTargetExponent_of_fits double.pos.ne' double.fits double.least]
    exact dif_neg double.pos.ne'
  · have halved : y / 2 ^ places * 2 ^ (f + places : Int) = y / 2 ^ places / 2 * 2 ^ e := by
      rw [below, zpow_sub_one₀ (by norm_num)]
      ring
    rw [halved] at rounds
    rw [value, halved, zpow_add₀ (by norm_num), mul_comm (2 ^ e : ℚ),
      mul_lt_mul_iff_left₀ (two_zpow_pos e)] at front
    have nearest := rounds.nearest_carry normal (by exact_mod_cast front)
    rw [mul_div_cancel₀ _ (by norm_num)] at nearest
    rw [still.roundedMantissa nearest, below, shiftToTargetExponent_of_carry (by omega),
      sub_add_cancel]
    exact dif_neg double.pos.ne'

end QuantumAssembler.Decimal
