import Mathlib.Algebra.Order.Field.Basic
import QuantumAssembler.Proofs.Decimal.Doubles

/-!
Module: QuantumAssembler.Proofs.Decimal.Nearest
Purpose: A decimal is turned into the double that it rounds to. Quotients and products of doubles
  are computed with enough bits, so they round correctly; a decimal is such a quotient or product of
  its digits and a power of ten, and the small powers of ten that are looked up are exact.
Main exports: div_of_roundsTo, mul_of_roundsTo, ofScientific_of_roundsTo, unpack_ofScientific
-/

namespace QuantumAssembler.Decimal

open Float.Model Float.Model.UnpackedFloat

/-! ### Quotients -/

theorem stands_exact (n : Nat) : Stands (ExtendedMantissa.ofMantissaAndAccuracy n .exact) n :=
  rfl

/-- A whole quotient and its remainder stand for the quotient. -/
theorem stands_div (a : Nat) {b : Nat} (pos : 0 < b) :
    Stands (ExtendedMantissa.ofMantissaAndAccuracy (a / b) (accuracyOfFraction (a % b) b))
      (a / b) := by
  have unit : (0 : ℚ) < b := by exact_mod_cast pos
  have rest : ((a % b : Nat) : ℚ) < b := by exact_mod_cast Nat.mod_lt a pos
  have whole : (a : ℚ) / b = (a / b : Nat) + (a % b : Nat) / b := by
    rw [div_eq_iff unit.ne', add_mul, div_mul_cancel₀ _ unit.ne', mul_comm _ (b : ℚ)]
    exact_mod_cast (Nat.div_add_mod a b).symm
  rw [whole]
  generalize a / b = q
  generalize a % b = r at rest
  unfold accuracyOfFraction
  by_cases exact : r = 0
  · simp [exact, ExtendedMantissa.ofMantissaAndAccuracy, Stands]
  · have some : (0 : ℚ) < r := by exact_mod_cast Nat.pos_of_ne_zero exact
    have part : (0 : ℚ) < r / b := div_pos some unit
    have less : (r : ℚ) / b < 1 := (div_lt_one unit).mpr rest
    rw [if_neg exact]
    cases half : compare (2 * r) b with
    | lt =>
        have small : (2 : ℚ) * r < b := by exact_mod_cast Nat.compare_eq_lt.mp half
        have front : (r : ℚ) / b < 1 / 2 := by rw [div_lt_div_iff₀ unit two_pos]; linarith
        exact ⟨by linarith, by linarith⟩
    | eq =>
        have equal : (2 : ℚ) * r = b := by exact_mod_cast Nat.compare_eq_eq.mp half
        have middle : (r : ℚ) / b = 1 / 2 := by rw [div_eq_div_iff unit.ne' two_ne_zero]; linarith
        simp [ExtendedMantissa.ofMantissaAndAccuracy, Stands, middle]
    | gt =>
        have large : (b : ℚ) < 2 * r := by exact_mod_cast Nat.compare_eq_gt.mp half
        have behind : 1 / 2 < (r : ℚ) / b := by rw [div_lt_div_iff₀ two_pos unit]; linarith
        exact ⟨by linarith, by linarith⟩

/-- The quotient that is computed has enough bits, unless its operands are too small. -/
theorem pow_le_div {m₁ m₂ : Nat} (pos₁ : 0 < m₁) (pos₂ : 0 < m₂) {places : Nat}
    (enough : m₂.log2 + 53 ≤ m₁.log2 + places) : Nat.pow 2 52 ≤ (m₁ <<< places) / m₂ := by
  rw [Nat.le_div_iff_mul_le pos₂, Nat.shiftLeft_eq]
  calc Nat.pow 2 52 * m₂
      ≤ Nat.pow 2 52 * 2 ^ (m₂.log2 + 1) := Nat.mul_le_mul_left _ Nat.lt_log2_self.le
    _ = 2 ^ (m₂.log2 + 53) := by rw [Nat.pow_eq, ← pow_add]; congr 1; omega
    _ ≤ 2 ^ (m₁.log2 + places) := Nat.pow_le_pow_right two_pos enough
    _ = 2 ^ m₁.log2 * 2 ^ places := pow_add ..
    _ ≤ m₁ * 2 ^ places := Nat.mul_le_mul_right _ (Nat.log2_self_le pos₁.ne')

theorem divCore_eq (m₁ : Nat) (e₁ : Int) (m₂ : Nat) (e₂ : Int) :
    ∃ places : Nat, divCore Format.binary64 m₁ e₁ m₂ e₂ =
        (m₁ <<< places / m₂, e₁ - e₂ - places, accuracyOfFraction (m₁ <<< places % m₂) m₂) ∧
      (m₂.log2 + 53 ≤ m₁.log2 + places ∨ e₁ - e₂ - places ≤ -1074) ∧
      (-1074 ≤ e₁ - e₂ → -1074 ≤ e₁ - e₂ - places) := by
  generalize target : min (e₁ - e₂)
    (Format.binary64.targetExponent (totalExponent m₁ e₁ - totalExponent m₂ e₂)) = t
  have places : e₁ - e₂ - ((e₁ - e₂ - t).toNat : Nat) = t := by omega
  refine ⟨(e₁ - e₂ - t).toNat, ?_, ?_⟩
  · rw [places, divCore, target]
  · rw [places]
    rw [targetExponent_binary64, totalExponent, totalExponent] at target
    omega

/-- The quotient of two doubles is the double that it rounds to. -/
theorem div_of_roundsTo {m : Nat} {e : Int} (double : IsDouble m e) {s₁ s₂ : Sign} {m₁ m₂ : Nat}
    {e₁ e₂ : Int} {pos₁ : 0 < m₁} {pos₂ : 0 < m₂} (deep : -1074 ≤ e₁ - e₂)
    (rounds : RoundsTo m e (m₁ * 2 ^ e₁ / (m₂ * 2 ^ e₂))) :
    UnpackedFloat.div Format.binary64 (.finite s₁ m₁ e₁ pos₁) (.finite s₂ m₂ e₂ pos₂) =
      .finite (s₁ / s₂) m e double.pos := by
  obtain ⟨places, core, enough, above⟩ := divCore_eq m₁ e₁ m₂ e₂
  have unit : (m₂ : ℚ) ≠ 0 := by exact_mod_cast pos₂.ne'
  have value : (m₁ * 2 ^ e₁ / (m₂ * 2 ^ e₂) : ℚ) =
      (m₁ <<< places : Nat) / m₂ * 2 ^ (e₁ - e₂ - places) := by
    rw [Nat.shiftLeft_eq, Nat.cast_mul, Nat.cast_pow, Nat.cast_ofNat,
      zpow_sub₀ two_ne_zero, zpow_sub₀ two_ne_zero, zpow_natCast]
    field_simp
  rw [value] at rounds
  have bits : Nat.pow 2 52 ≤ m₁ <<< places / m₂ ∨ e₁ - e₂ - places = -1074 :=
    enough.imp (pow_le_div pos₁ pos₂) fun small => le_antisymm small (above deep)
  unfold UnpackedFloat.div
  dsimp only
  rw [core]
  exact roundWithAccuracy_of_roundsTo double (stands_div _ pos₂) bits rounds _

/-- The product of two doubles is the double that it rounds to. -/
theorem mul_of_roundsTo {m : Nat} {e : Int} (double : IsDouble m e) {s₁ s₂ : Sign} {m₁ m₂ : Nat}
    {e₁ e₂ : Int} {pos₁ : 0 < m₁} {pos₂ : 0 < m₂} (enough : Nat.pow 2 52 ≤ m₁ * m₂)
    (rounds : RoundsTo m e (m₁ * 2 ^ e₁ * (m₂ * 2 ^ e₂))) :
    UnpackedFloat.mul Format.binary64 (.finite s₁ m₁ e₁ pos₁) (.finite s₂ m₂ e₂ pos₂) =
      .finite (s₁ * s₂) m e double.pos := by
  have value : (m₁ * 2 ^ e₁ * (m₂ * 2 ^ e₂) : ℚ) = (m₁ * m₂ : Nat) * 2 ^ (e₁ + e₂) := by
    rw [Nat.cast_mul, zpow_add₀ two_ne_zero]
    ring
  rw [value] at rounds
  exact roundWithAccuracy_of_roundsTo double (stands_exact _) (.inl enough) rounds _

/-! ### Decimals -/

/-- A number that rounds to a positive double is at least half of its last place. -/
theorem RoundsTo.zpow_le {m : Nat} {e : Int} {y : ℚ} (double : IsDouble m e)
    (rounds : RoundsTo m e y) : 2 ^ (e - 1) ≤ y := by
  have unit := two_zpow_pos (e - 2)
  have one : (1 : ℚ) ≤ m := by exact_mod_cast double.pos
  calc (2 : ℚ) ^ (e - 1) = 2 * 2 ^ (e - 2) := by
        rw [← zpow_one_add₀ two_ne_zero]
        congr 1
        ring
    _ ≤ (4 * m - if IsDense m e then 1 else 2) * 2 ^ (e - 2) := by
        apply mul_le_mul_of_nonneg_right _ unit.le
        split <;> linarith
    _ ≤ y := rounds.le.1

theorem two_zpow_le_ten_zpow {p : Int} (up : 0 ≤ p) : (2 : ℚ) ^ p ≤ 10 ^ p := by
  obtain ⟨n, rfl⟩ := Int.eq_ofNat_of_zero_le up
  rw [zpow_natCast, zpow_natCast]
  exact pow_le_pow_left₀ two_pos.le (by norm_num) n

theorem ten_zpow_le_two_zpow {p : Int} (down : p ≤ 0) : (10 : ℚ) ^ p ≤ 2 ^ p := by
  have flipped : (2 : ℚ) ^ (-p) ≤ 10 ^ (-p) := two_zpow_le_ten_zpow (by omega)
  rw [zpow_neg, zpow_neg] at flipped
  exact (inv_le_inv₀ (two_zpow_pos p) (zpow_pos (by norm_num) p)).mp flipped

/-- Decimals that round to a double are neither huge nor tiny. -/
theorem RoundsTo.exponent_bounds {m : Nat} {e : Int} (double : IsDouble m e) {digits : Nat}
    (some : digits ≠ 0) {p : Int} (rounds : RoundsTo m e (digits * 10 ^ p)) :
    p ≤ 2048 ∧ -(2048 + (digits.log2 : Int)) ≤ p := by
  have top := double.top
  have least := double.least
  by_cases up : 0 ≤ p
  · refine ⟨?_, by omega⟩
    have one : (1 : ℚ) ≤ digits := by exact_mod_cast Nat.pos_of_ne_zero some
    have large : (2 : ℚ) ^ p ≤ digits * 10 ^ p :=
      (two_zpow_le_ten_zpow up).trans (le_mul_of_one_le_left (zpow_nonneg (by norm_num) p) one)
    have := two_zpow_lt large (rounds.lt_zpow double)
    omega
  · refine ⟨by omega, ?_⟩
    have small : (digits : ℚ) * 10 ^ p < 2 ^ (digits.log2 + 1 + p) := by
      calc (digits : ℚ) * 10 ^ p
          ≤ digits * 2 ^ p :=
            mul_le_mul_of_nonneg_left (ten_zpow_le_two_zpow (by omega)) (Nat.cast_nonneg _)
        _ < (digits + 1) * 2 ^ p := mul_lt_mul_of_pos_right (lt_add_one _) (two_zpow_pos p)
        _ ≤ 2 ^ (digits.log2 + 1 + p) := mul_zpow_le_zpow digits p
    have := two_zpow_lt (rounds.zpow_le double) small
    omega

/-- Every decimal is read as the double that it rounds to. -/
theorem ofScientific_of_roundsTo {m : Nat} {e : Int} (double : IsDouble m e) {digits : Nat}
    (some : digits ≠ 0) {p : Int} (rounds : RoundsTo m e (digits * 10 ^ p)) :
    UnpackedFloat.ofScientific Format.binary64 digits p = .finite .positive m e double.pos := by
  obtain ⟨high, low⟩ := rounds.exponent_bounds double some
  unfold UnpackedFloat.ofScientific
  rw [dif_neg some, if_neg (not_lt.mpr (show p ≤ 2 ^ 11 from high)),
    if_neg (not_lt.mpr (show -(2 ^ 11 + (digits.log2 : Int)) ≤ p from low))]
  by_cases up : 0 ≤ p
  · obtain ⟨n, rfl⟩ := Int.eq_ofNat_of_zero_le up
    rw [if_pos up]
    refine mul_of_roundsTo double ?_ ?_
    · calc Nat.pow 2 52 ≤ digits <<< 53 := by
            rw [Nat.shiftLeft_eq]
            exact (Nat.pow_le_pow_right two_pos (by decide)).trans
              (Nat.le_mul_of_pos_left _ (Nat.pos_of_ne_zero some))
        _ ≤ digits <<< 53 * 10 ^ (n : Int).toNat := Nat.le_mul_of_pos_right _ (by positivity)
    · have value : (digits * 10 ^ (n : Int) : ℚ) =
          (digits <<< 53 : Nat) * 2 ^ (-53 : Int) * ((10 ^ n : Nat) * 2 ^ (0 : Int)) := by
        rw [Nat.shiftLeft_eq, zpow_neg, zpow_zero, zpow_natCast]
        push_cast
        field_simp
      rwa [value] at rounds
  · obtain ⟨n, rfl⟩ : ∃ n : Nat, p = -n := ⟨p.natAbs, by omega⟩
    rw [if_neg up]
    refine div_of_roundsTo double (by decide) ?_
    have value : (digits * 10 ^ (-n : Int) : ℚ) =
        digits * 2 ^ (0 : Int) / ((10 ^ (- -(n : Int)).toNat : Nat) * 2 ^ (0 : Int)) := by
      rw [neg_neg, Int.toNat_natCast, zpow_neg, zpow_natCast, zpow_zero, mul_one, mul_one,
        Nat.cast_pow, div_eq_mul_inv]
      rfl
    rwa [value] at rounds

/-! ### Small decimals -/

/-- A double rounds to itself. -/
theorem IsDouble.roundsTo {m : Nat} {e : Int} : RoundsTo m e (m * 2 ^ e) := by
  rw [roundsTo_mul_zpow]
  split <;> split <;> constructor <;> linarith

/-- A small number, with all the bits of a mantissa. -/
theorem isDouble_shiftLeft {n : Nat} (some : n ≠ 0) (small : n < Nat.pow 2 53) :
    IsDouble (n <<< (52 - n.log2)) (-(52 - n.log2 : Nat)) ∧
      Nat.pow 2 52 ≤ n <<< (52 - n.log2) := by
  have bits : n.log2 < 53 := (Nat.log2_lt some).mpr small
  have full : Nat.pow 2 52 ≤ n <<< (52 - n.log2) := by
    rw [Nat.shiftLeft_eq]
    calc Nat.pow 2 52 = 2 ^ n.log2 * 2 ^ (52 - n.log2) := by
          rw [Nat.pow_eq, ← pow_add]
          congr 1
          omega
      _ ≤ n * 2 ^ (52 - n.log2) := Nat.mul_le_mul_right _ (Nat.log2_self_le some)
  have fits : n <<< (52 - n.log2) < Nat.pow 2 53 := by
    rw [Nat.shiftLeft_eq]
    calc n * 2 ^ (52 - n.log2) < 2 ^ (n.log2 + 1) * 2 ^ (52 - n.log2) :=
          Nat.mul_lt_mul_of_pos_right Nat.lt_log2_self (by positivity)
      _ = Nat.pow 2 53 := by
          rw [Nat.pow_eq, ← pow_add]
          congr 1
          omega
  exact ⟨⟨(Nat.pow_pos two_pos).trans_le full, fits, by omega, by omega, .inl full⟩, full⟩

theorem unpack_ofModel {m : Nat} {e : Int} (double : IsDouble m e) {u : UnpackedFloat}
    (rounded : u = .finite .positive m e double.pos) :
    (Float.ofModel (Float.Model.pack u)).toModel.unpack = .finite .positive m e double.pos := by
  subst rounded
  exact unpack_pack double

theorem decreaseExponent_zero (n places : Nat) :
    decreaseExponent n 0 (-places) = (n <<< places, (-places : Int)) := by
  simp only [decreaseExponent, zero_sub, neg_neg, Int.toNat_natCast]

/-- Small numbers are doubles. -/
theorem unpack_toFloat {n : Nat} (some : n ≠ 0) (small : n < Nat.pow 2 53) :
    n.toUInt64.toFloat.toModel.unpack =
      .finite .positive (n <<< (52 - n.log2)) (-(52 - n.log2 : Nat))
        (isDouble_shiftLeft some small).1.pos := by
  obtain ⟨double, full⟩ := isDouble_shiftLeft some small
  have bits : n.log2 < 53 := (Nat.log2_lt some).mpr small
  have same : n.toUInt64.toNat = n := by
    rw [Nat.toUInt64, UInt64.toNat_ofNat']
    exact Nat.mod_eq_of_lt (small.trans (by decide))
  have positive : compare (n : Int) 0 = .gt := by
    rw [Int.compare_eq_gt]
    omega
  have target : Format.binary64.targetExponent (totalExponent n 0) = -(52 - n.log2 : Nat) := by
    rw [targetExponent_binary64, totalExponent]
    omega
  have rounded : UnpackedFloat.ofUInt64 Format.binary64 n.toUInt64 =
      .finite .positive (n <<< (52 - n.log2)) (-(52 - n.log2 : Nat)) double.pos := by
    unfold UnpackedFloat.ofUInt64 UnpackedFloat.ofNat UnpackedFloat.ofInt UnpackedFloat.normalize
    rw [same, positive]
    dsimp only
    unfold UnpackedFloat.round
    rw [Int.toNat_natCast, target]
    dsimp only
    rw [decreaseExponent_zero]
    exact roundWithAccuracy_of_roundsTo double (stands_exact _) (.inl full) IsDouble.roundsTo _
  exact unpack_ofModel double rounded

theorem unpack_of_finite {x : Float} {negative : Bool} {m : Nat} {e : Int}
    (parts : Binary.ofFloat x = .finite negative m e) (pos : 0 < m) :
    x.toModel.unpack = .finite (if negative then .negative else .positive) m e pos := by
  rw [Binary.ofFloat_eq] at parts
  generalize x.toModel.unpack = u at parts
  cases u with
  | infinity s => cases parts
  | notANumber => cases parts
  | zero s =>
      obtain ⟨-, none, -⟩ := Binary.finite.inj parts
      exact absurd none pos.ne
  | finite s n f n_pos =>
      obtain ⟨rfl, rfl, rfl⟩ := Binary.finite.inj parts
      cases s <;> rfl

/-- The powers of ten in the table are exact. -/
theorem exactPower (places : Fin 23) :
    Binary.ofFloat (Float.exactlyRepresentablePowersOfTen[places.val]!) =
      .finite false (5 ^ places.val <<< (52 - (5 ^ places.val).log2))
        (places - (52 - (5 ^ places.val).log2 : Nat)) := by
  revert places
  decide +kernel

theorem unpack_power {places : Nat} (few : places ≤ 22)
    (inside : places < Float.exactlyRepresentablePowersOfTen.size) :
    ∃ (m : Nat) (e : Int) (pos : 0 < m),
      (Float.exactlyRepresentablePowersOfTen[places]).toModel.unpack = .finite .positive m e pos ∧
        (m * 2 ^ e : ℚ) = 10 ^ places ∧ -52 ≤ e ∧ e ≤ 22 := by
  have exact := exactPower ⟨places, by omega⟩
  simp only [getElem!_pos Float.exactlyRepresentablePowersOfTen places inside] at exact
  have most : 52 - (5 ^ places).log2 ≤ 52 := Nat.sub_le ..
  generalize 52 - (5 ^ places).log2 = bits at exact most
  have pos : 0 < 5 ^ places <<< bits := by
    rw [Nat.shiftLeft_eq]
    positivity
  have value : ((5 ^ places <<< bits : Nat) : ℚ) * 2 ^ (places - bits : Int) = 10 ^ places := by
    rw [Nat.shiftLeft_eq, zpow_sub₀ two_ne_zero, zpow_natCast, zpow_natCast,
      show (10 : ℚ) = 5 * 2 by norm_num, mul_pow]
    push_cast
    field_simp
  exact ⟨_, _, pos, unpack_of_finite exact pos, value, by omega, by omega⟩

/-- A decimal is read as the double that it rounds to. -/
theorem unpack_ofScientific {m : Nat} {e : Int} (double : IsDouble m e) {digits : Nat}
    (some : digits ≠ 0) {down : Bool} {places : Nat}
    (rounds : RoundsTo m e (digits * 10 ^ (if down then -places else places : Int))) :
    (Float.ofScientific digits down places).toModel.unpack =
      .finite .positive m e double.pos := by
  unfold Float.ofScientific
  by_cases fast : digits < 2 ^ 53 ∧ places ≤ 22
  · rw [dif_pos fast]
    obtain ⟨small, few⟩ := fast
    have inside : places < Float.exactlyRepresentablePowersOfTen.size := Nat.lt_succ_of_le few
    obtain ⟨m₂, e₂, pos₂, power, value, low, high⟩ := unpack_power few inside
    obtain ⟨-, full⟩ := isDouble_shiftLeft some small
    have number := unpack_toFloat some small
    have exact : (digits : ℚ) =
        (digits <<< (52 - digits.log2) : Nat) * 2 ^ (-(52 - digits.log2 : Nat) : Int) := by
      rw [Nat.shiftLeft_eq, zpow_neg, zpow_natCast]
      push_cast
      field_simp
    cases down with
    | true =>
        refine unpack_ofModel double (?_ : UnpackedFloat.div _ _ _ = _)
        rw [number, power]
        refine div_of_roundsTo double (by omega) ?_
        rwa [← exact, value, div_eq_mul_inv, ← zpow_natCast, ← zpow_neg]
    | false =>
        refine unpack_ofModel double (?_ : UnpackedFloat.mul _ _ _ = _)
        rw [number, power]
        refine mul_of_roundsTo double (full.trans (Nat.le_mul_of_pos_right _ pos₂)) ?_
        rwa [← exact, value, ← zpow_natCast]
  · rw [dif_neg fast]
    have read := ofScientific_of_roundsTo double some rounds
    have scale : (if down then Int.negOfNat places else Int.ofNat places) =
        (if down then -places else places : Int) := by
      cases down
      · rfl
      · exact Int.negOfNat_eq
    rw [scale]
    exact unpack_ofModel double read

end QuantumAssembler.Decimal
