import QuantumAssembler.Decimal.Shortest
import QuantumAssembler.Proofs.Decimal.Nearest

/-!
Module: QuantumAssembler.Proofs.Decimal.Shortest
Purpose: The shortest decimal of a double rounds to the double. The interval that is searched is
  that of the numbers that round to the double; a hit on a grid lies in it, and the grids get fine
  enough before the search gives up.
Main exports: Interval.holds_iff, Interval.onGrid?_eq_some, Interval.onGrid?_firstHit,
  decimals_dense, shortest_roundsTo
-/

namespace QuantumAssembler.Decimal

/-! ### Multiples of a power of ten -/

theorem zpow_eq_div (b : ℚ) (k : Int) : b ^ k = b ^ k.toNat / b ^ (-k).toNat := by
  obtain ⟨n, rfl | rfl⟩ := k.eq_nat_or_neg
  · rw [zpow_natCast, Int.toNat_natCast, Int.toNat_neg_natCast, pow_zero, div_one]
  · rw [neg_neg, zpow_neg, zpow_natCast, Int.toNat_natCast, Int.toNat_neg_natCast, pow_zero,
      one_div]

/-- The comparisons with a multiple of a power of ten are comparisons of whole numbers, once both
    sides are brought to a common denominator. -/
theorem le_grid_iff (a n : Nat) (quarter k : Int) :
    a * Nat.pow 2 quarter.toNat * Nat.pow 10 (-k).toNat ≤
        n * (Nat.pow 2 (-quarter).toNat * Nat.pow 10 k.toNat) ↔
      (a : ℚ) * 2 ^ quarter ≤ n * 10 ^ k := by
  rw [zpow_eq_div 2, zpow_eq_div 10, ← mul_div_assoc,
    ← mul_div_assoc, div_le_div_iff₀ (by positivity) (by positivity), mul_assoc (n : ℚ),
    mul_comm ((10 : ℚ) ^ k.toNat)]
  exact_mod_cast Iff.rfl

theorem grid_le_iff (a n : Nat) (quarter k : Int) :
    n * (Nat.pow 2 (-quarter).toNat * Nat.pow 10 k.toNat) ≤
        a * Nat.pow 2 quarter.toNat * Nat.pow 10 (-k).toNat ↔
      (n : ℚ) * 10 ^ k ≤ a * 2 ^ quarter := by
  rw [zpow_eq_div 2, zpow_eq_div 10, ← mul_div_assoc,
    ← mul_div_assoc, div_le_div_iff₀ (by positivity) (by positivity), mul_assoc (n : ℚ),
    mul_comm ((10 : ℚ) ^ k.toNat)]
  exact_mod_cast Iff.rfl

namespace Interval

/-- An interval whose numbers are counted in multiples of `10 ^ exponent`. -/
def scaled (i : Interval) (exponent : Int) : Interval :=
  let down := Nat.pow 10 (-exponent).toNat
  ⟨i.low * down, i.value * down, i.high * down, i.unit, i.closed⟩

/-- The distance between two multiples of `10 ^ exponent`. -/
def step (i : Interval) (exponent : Int) : Nat :=
  i.unit * Nat.pow 10 exponent.toNat

variable {m : Nat} {e : Int}

/-- The multiples of a power of ten in the interval of a double are those that round to it. -/
theorem holds_iff (pos : 0 < m) (n : Nat) (k : Int) :
    ((ofBinary m e).scaled k).holds (n * (ofBinary m e).step k) = true ↔
      RoundsTo m e (n * 10 ^ k) := by
  have dense : (m == Nat.pow 2 Binary.fractionBits && decide (Binary.leastExponent < e)) =
      decide (IsDense m e) := by
    rw [Bool.eq_iff_iff, Bool.and_eq_true, beq_iff_eq, decide_eq_true_eq, decide_eq_true_eq]
    rfl
  have low : ((4 * m - if IsDense m e then 1 else 2 : Nat) : ℚ) =
      4 * m - if IsDense m e then 1 else 2 := by
    rw [Nat.cast_sub (by split <;> omega)]
    push_cast
    rfl
  have high : ((4 * m + 2 : Nat) : ℚ) = 4 * m + 2 := by push_cast; rfl
  unfold holds scaled step ofBinary RoundsTo
  simp only [dense, decide_eq_true_eq, beq_iff_eq]
  split
  · rw [Bool.and_eq_true, decide_eq_true_eq, decide_eq_true_eq, le_grid_iff, grid_le_iff, low, high]
  · rw [Bool.and_eq_true, decide_eq_true_eq, decide_eq_true_eq, ← not_le, ← not_le, le_grid_iff,
      grid_le_iff, low, high, not_le, not_le]

/-- A grid offers a multiple of its power of ten that the interval holds, one of the two next to the
    value. -/
theorem onGrid?_eq_some {i : Interval} {k : Int} {hit : Scaled}
    (found : i.onGrid? k = some hit) :
    hit.exponent = k ∧ (i.scaled k).holds (hit.digits * i.step k) = true := by
  unfold onGrid? at found
  dsimp only at found
  split at found
  · rename_i below above
    split at found
    · obtain rfl := Option.some.inj found
      exact ⟨rfl, below⟩
    · obtain rfl := Option.some.inj found
      exact ⟨rfl, above⟩
  · rename_i below above
    obtain rfl := Option.some.inj found
    exact ⟨rfl, below⟩
  · rename_i below above
    obtain rfl := Option.some.inj found
    exact ⟨rfl, above⟩
  · cases found

theorem onGrid?_isSome {i : Interval} {k : Int}
    (below : (i.scaled k).holds ((i.scaled k).value / i.step k * i.step k) = true) :
    (i.onGrid? k).isSome := by
  unfold onGrid?
  dsimp only
  split
  · split <;> rfl
  · rfl
  · rfl
  · rename_i other _
    exact absurd (other.symm.trans below) (by decide)

/-- A grid that is finer than a quarter of the last place offers a multiple. -/
theorem onGrid?_fine (pos : 0 < m) {k : Int} (fine : (10 : ℚ) ^ k ≤ 2 ^ (e - 2)) :
    ((ofBinary m e).onGrid? k).isSome := by
  apply onGrid?_isSome
  rw [holds_iff pos]
  have distance : 0 < (ofBinary m e).step k :=
    Nat.mul_pos (Nat.pow_pos two_pos) (Nat.pow_pos (by decide))
  have floor := Nat.div_mul_le_self ((ofBinary m e).scaled k).value ((ofBinary m e).step k)
  have next := Nat.lt_div_mul_add (a := ((ofBinary m e).scaled k).value) distance
  generalize ((ofBinary m e).scaled k).value / (ofBinary m e).step k = n at floor next
  have below : (n : ℚ) * 10 ^ k ≤ (4 * m : Nat) * 2 ^ (e - 2) := (grid_le_iff ..).mp floor
  have above : ((4 * m : Nat) : ℚ) * 2 ^ (e - 2) < (n + 1 : Nat) * 10 ^ k := by
    rw [← not_le, ← grid_le_iff, not_le, Nat.add_mul, Nat.one_mul]
    exact next
  have unit := two_zpow_pos (e - 2)
  push_cast at below above
  rw [add_mul, one_mul] at above
  have high : (n : ℚ) * 10 ^ k < (4 * m + 2) * 2 ^ (e - 2) := by
    rw [add_mul]
    linarith
  have low : (4 * m - if IsDense m e then 1 else 2 : ℚ) * 2 ^ (e - 2) < n * 10 ^ k := by
    have some : (1 : ℚ) * 2 ^ (e - 2) ≤ (if IsDense m e then 1 else 2) * 2 ^ (e - 2) := by
      apply mul_le_mul_of_nonneg_right _ unit.le
      split <;> norm_num
    rw [sub_mul]
    linarith
  unfold RoundsTo
  dsimp only
  split
  · exact ⟨low.le, high.le⟩
  · exact ⟨low, high⟩

/-- The first hit is a hit, as soon as one of the grids offers a multiple. -/
theorem onGrid?_firstHit {i : Interval} {k : Int} (hit : (i.onGrid? k).isSome) (grids : Nat)
    (start : Int) (first : k ≤ start) (last : start - k < grids) :
    ∃ found : Int, k ≤ found ∧ found ≤ start ∧
      i.onGrid? found = some (i.firstHit grids start) := by
  induction grids generalizing start with
  | zero => omega
  | succ grids ih =>
      unfold firstHit
      cases here : i.onGrid? start with
      | some d => exact ⟨start, first, le_rfl, here⟩
      | none =>
          have later : k ≠ start := by
            rintro rfl
            simp [here] at hit
          obtain ⟨found, low, high, same⟩ := ih (start - 1) (by omega) (by omega)
          exact ⟨found, low, by omega, same⟩

end Interval

/-! ### The shortest decimal -/

/-- Eighteen places below their first digit, decimals are denser than doubles. The number `n` counts
    the powers of two from the smallest double on. -/
theorem decimals_dense {n : Nat} (inside : n < 2098) :
    Nat.pow 10 ((n * 30103 + 99481) / 100000) * Nat.pow 2 1128 ≤ Nat.pow 2 n * Nat.pow 10 342 := by
  have all : ((List.range 2098).all fun n =>
      Nat.ble (Nat.pow 10 ((n * 30103 + 99481) / 100000) * Nat.pow 2 1128)
        (Nat.pow 2 n * Nat.pow 10 342)) = true := by
    decide +kernel
  exact Nat.le_of_ble_eq_true (List.all_eq_true.mp all n (List.mem_range.mpr inside))

theorem zpow_le_of_pow_le {t n a b : Nat}
    (dense : Nat.pow 10 t * Nat.pow 2 a ≤ Nat.pow 2 n * Nat.pow 10 b) :
    (10 : ℚ) ^ (t - b : Int) ≤ 2 ^ (n - a : Int) := by
  rw [zpow_sub₀ (by norm_num), zpow_sub₀ two_ne_zero, zpow_natCast, zpow_natCast, zpow_natCast,
    zpow_natCast, div_le_div_iff₀ (by positivity) (by positivity)]
  exact_mod_cast dense

/-- The last grid that is tried is fine enough. -/
theorem topExponent_fine {m : Nat} {e : Int} (double : IsDouble m e) :
    (10 : ℚ) ^ (topExponent m e - 19) ≤ 2 ^ (e - 2) := by
  have bits : m.log2 < 53 := (Nat.log2_lt double.pos.ne').mpr double.fits
  have least := double.least
  have top := double.top
  obtain ⟨n, size⟩ : ∃ n : Nat, (n : Int) = e + m.log2 + 1074 :=
    ⟨(e + m.log2 + 1074).toNat, by omega⟩
  have dense := decimals_dense (n := n) (by omega)
  have grid : topExponent m e - 19 = ((n * 30103 + 99481) / 100000 : Nat) - (342 : Nat) := by
    unfold topExponent
    omega
  rw [grid]
  exact (zpow_le_of_pow_le dense).trans (zpow_le_zpow_right₀ one_le_two (by omega))

/-- The shortest decimal of a double rounds to it. -/
theorem shortest_roundsTo {m : Nat} {e : Int} (double : IsDouble m e) :
    RoundsTo m e ((shortest m e).digits * 10 ^ (shortest m e).exponent) := by
  obtain ⟨k, -, -, found⟩ := Interval.onGrid?_firstHit
    (Interval.onGrid?_fine double.pos (topExponent_fine double)) 20 (topExponent m e)
    (by omega) (by omega)
  obtain ⟨same, holds⟩ := Interval.onGrid?_eq_some found
  change (shortest m e).exponent = k at same
  rw [same]
  exact (Interval.holds_iff double.pos _ _).mp holds

end QuantumAssembler.Decimal
