import QuantumAssembler.Proofs.Decimal.Root

/-!
Module: QuantumAssembler.Proofs.Decimal.Undefined
Purpose: Doubles that are no numbers. Every operation with one of them gives another, none is finite
  and none equals zero, so a comparison with zero does not find them. They arise from roots of what
  is below zero. A double that is a number is below zero, equal to zero or above it.
Main exports: Rootless, isNaN_sqrt, isNaN_mul_left, isNaN_add_left, isNaN_div_right,
  beq_zero_of_isNaN, mul_of_beq_zero, zero_lt_of_not_rootless
-/

namespace QuantumAssembler.Decimal

open Float.Model Float.Model.UnpackedFloat

variable {x y : Float}

theorem unpack_of_isNaN (undefined : x.isNaN = true) : x.toModel.unpack = .notANumber := by
  change x.toModel.unpack.isNaN = true at undefined
  cases parts : x.toModel.unpack with
  | notANumber => rfl
  | infinity | zero | finite =>
      rw [parts] at undefined
      cases undefined

theorem isNaN_of_pack {u : UnpackedFloat} (undefined : u = .notANumber) :
    (Float.ofModel (pack u)).isNaN = true := by
  rw [undefined]
  rfl

theorem beq_zero_of_pack {u : UnpackedFloat} (zero : ∃ s, u = .zero s) :
    (Float.ofModel (pack u) == 0) = true := by
  obtain ⟨s, rfl⟩ := zero
  cases s <;> rfl

theorem unpack_of_beq_zero (zero : (x == 0) = true) : ∃ s, x.toModel.unpack = .zero s := by
  rcases eq_of_beq_unpacked (show x.toModel.unpack.beq (.zero .positive) = true from zero) with
    parts | ⟨parts, -⟩
  · exact ⟨.positive, parts⟩
  · exact parts

/-! ### Comparisons -/

theorem beq_zero_of_isNaN (undefined : x.isNaN = true) : (x == 0) = false := by
  change x.toModel.unpack.beq (.zero .positive) = false
  rw [unpack_of_isNaN undefined]
  rfl

theorem isFinite_of_isNaN (undefined : x.isNaN = true) : x.isFinite = false := by
  change x.toModel.unpack.isFinite = false
  rw [unpack_of_isNaN undefined]
  rfl

/-! ### Sums, products and quotients -/

theorem isNaN_add_left (undefined : x.isNaN = true) (y : Float) : (x + y).isNaN = true := by
  apply isNaN_of_pack
  rw [unpack_of_isNaN undefined]
  cases y.toModel.unpack <;> rfl

theorem isNaN_mul_left (undefined : x.isNaN = true) (y : Float) : (x * y).isNaN = true := by
  apply isNaN_of_pack
  rw [unpack_of_isNaN undefined]
  cases y.toModel.unpack <;> rfl

theorem isNaN_mul_right (x : Float) (undefined : y.isNaN = true) : (x * y).isNaN = true := by
  rw [mul_comm_double]
  exact isNaN_mul_left undefined x

theorem isNaN_div_right (x : Float) (undefined : y.isNaN = true) : (x / y).isNaN = true := by
  apply isNaN_of_pack
  rw [unpack_of_isNaN undefined]
  cases x.toModel.unpack <;> rfl

/-- A zero times a finite double is a zero, and times any other it is no number. -/
theorem mul_of_beq_zero (zero : (x == 0) = true) (y : Float) :
    (x * y == 0) = true ∨ y.isFinite = false ∧ (x * y).isNaN = true := by
  obtain ⟨s, parts⟩ := unpack_of_beq_zero zero
  have product : x * y =
      Float.ofModel (pack (UnpackedFloat.mul Format.binary64 (.zero s) y.toModel.unpack)) := by
    rw [← parts]
    rfl
  rw [product]
  change _ ∨ y.toModel.unpack.isFinite = false ∧ _
  cases y.toModel.unpack with
  | notANumber | infinity => exact .inr ⟨rfl, isNaN_of_pack rfl⟩
  | zero t | finite t => exact .inl (beq_zero_of_pack ⟨s * t, rfl⟩)

theorem mul_self_of_beq_zero (zero : (x == 0) = true) : (x * x == 0) = true := by
  obtain ⟨s, parts⟩ := unpack_of_beq_zero zero
  refine beq_zero_of_pack ⟨s * s, ?_⟩
  rw [parts]
  rfl

theorem add_of_beq_zero (zero : (x == 0) = true) (zeroToo : (y == 0) = true) :
    (x + y == 0) = true := by
  obtain ⟨s, first⟩ := unpack_of_beq_zero zero
  obtain ⟨t, second⟩ := unpack_of_beq_zero zeroToo
  apply beq_zero_of_pack
  rw [first, second]
  cases s <;> cases t <;> exact ⟨_, rfl⟩

/-! ### Roots -/

/-- What has no root: doubles below zero and those that are no numbers. -/
def Rootless (x : Float) : Prop :=
  x < 0 ∨ x.isNaN = true

/-- A double has no root, is a zero or is above zero. -/
theorem rootless_or_nonneg (x : Float) : Rootless x ∨ (x == 0) = true ∨ 0 < x := by
  rw [Rootless, lt_double_iff, lt_double_iff]
  change (x.toModel.unpack.lt (.zero .positive) = true ∨ x.toModel.unpack.isNaN = true) ∨
    x.toModel.unpack.beq (.zero .positive) = true ∨ (zero .positive).lt x.toModel.unpack = true
  rcases x.toModel.unpack with (_ | _) | _ | (_ | _) | (_ | _)
  case infinity.negative | finite.negative => exact .inl (.inl rfl)
  case notANumber => exact .inl (.inr rfl)
  case zero.negative | zero.positive => exact .inr (.inl rfl)
  case infinity.positive | finite.positive => exact .inr (.inr rfl)

theorem zero_or_zero_lt (finite : x.isFinite = true) (nonneg : ¬ x < 0) :
    (x == 0) = true ∨ 0 < x := by
  rcases rootless_or_nonneg x with (below | undefined) | zero | above
  · exact absurd below nonneg
  · cases finite.symm.trans (isFinite_of_isNaN undefined)
  · exact .inl zero
  · exact .inr above

theorem not_lt_zero_of_zero_lt (above : 0 < x) : ¬ x < 0 := by
  rw [lt_double_iff] at above ⊢
  change (zero .positive).lt x.toModel.unpack = true at above
  change ¬ x.toModel.unpack.lt (zero .positive) = true
  generalize x.toModel.unpack = u at above ⊢
  rcases u with (_ | _) | _ | (_ | _) | (_ | _)
  case infinity.positive | finite.positive => exact Bool.false_ne_true
  all_goals cases above

theorem isNaN_sqrt (rootless : Rootless x) : x.sqrt.isNaN = true := by
  apply isNaN_of_pack
  rcases rootless with negative | undefined
  · rw [lt_double_iff] at negative
    change x.toModel.unpack.lt (.zero .positive) = true at negative
    generalize x.toModel.unpack = u at negative
    rcases u with (_ | _) | _ | (_ | _) | (_ | _)
    case infinity.negative | finite.negative | notANumber => rfl
    case infinity.positive | finite.positive | zero.negative | zero.positive => cases negative
  · rw [unpack_of_isNaN undefined]
    rfl

theorem sqrt_of_beq_zero (zero : (x == 0) = true) : (x.sqrt == 0) = true := by
  obtain ⟨s, parts⟩ := unpack_of_beq_zero zero
  refine beq_zero_of_pack ⟨s, ?_⟩
  rw [parts]
  rfl

/-- If the product of two roots is neither a zero nor undefined, both doubles are above zero. -/
theorem zero_lt_of_sqrt_mul_sqrt (some : ¬ (x.sqrt * y.sqrt).isNaN = true)
    (nonzero : ¬ (x.sqrt * y.sqrt == 0) = true) : 0 < x ∧ 0 < y := by
  have first : ∀ {x y : Float}, ¬ (x.sqrt * y.sqrt).isNaN = true →
      ¬ (x.sqrt * y.sqrt == 0) = true → 0 < x := by
    intro x y some nonzero
    rcases rootless_or_nonneg x with rootless | zero | above
    · exact absurd (isNaN_mul_left (isNaN_sqrt rootless) y.sqrt) some
    · rcases mul_of_beq_zero (sqrt_of_beq_zero zero) y.sqrt with product | ⟨-, product⟩
      · exact absurd product nonzero
      · exact absurd product some
    · exact above
  refine ⟨first some nonzero, ?_⟩
  rw [mul_comm_double] at some nonzero
  exact first some nonzero

/-- The roots of two finite doubles that are not below zero have a zero product, unless both doubles
    are above zero. -/
theorem sqrt_mul_sqrt_cases (finite : x.isFinite = true) (finiteToo : y.isFinite = true)
    (nonneg : ¬ x < 0) (nonnegToo : ¬ y < 0) :
    0 < x ∧ 0 < y ∨ (x.sqrt * y.sqrt == 0) = true := by
  have vanishes : ∀ {x y : Float}, (x == 0) = true → y.isFinite = true → ¬ y < 0 →
      (x.sqrt * y.sqrt == 0) = true := by
    intro x y zero finite nonneg
    rcases mul_of_beq_zero (sqrt_of_beq_zero zero) y.sqrt with product | ⟨infinite, -⟩
    · exact product
    · cases infinite.symm.trans (isFinite_sqrt finite nonneg)
  rcases zero_or_zero_lt finite nonneg with zero | above
  · exact .inr (vanishes zero finiteToo nonnegToo)
  · rcases zero_or_zero_lt finiteToo nonnegToo with zero | aboveToo
    · rw [mul_comm_double]
      exact .inr (vanishes zero finite nonneg)
    · exact .inl ⟨above, aboveToo⟩

end QuantumAssembler.Decimal
