import QuantumAssembler.Proofs.Decimal.Rounding

/-!
Module: QuantumAssembler.Proofs.Decimal.Doubles
Purpose: Doubles and what they unpack to. A double is taken apart by unpacking its fields; packing
  and unpacking undo each other, so a double is determined by its sign, mantissa and exponent. Sums
  and products do not hang on the order of two doubles. A finite double is a zero, above zero or
  below zero, and equal doubles are the same except for the two zeros.
Main exports: Binary.ofFloat_eq, Canonical, unpack_pack, pack_unpack, eq_of_unpack,
  add_comm_double, mul_comm_double, IsPositive, IsZero, IsSigned, sign_cases, eq_of_beq_double
-/

namespace QuantumAssembler.Decimal

open Float.Model Float.Model.UnpackedFloat

/-! ### The fields of a double -/

theorem ofBitVec_toBitVec (s : Sign) : Sign.ofBitVec s.toBitVec = s := by
  cases s <;> rfl

theorem toBitVec_ofBitVec (bit : BitVec 1) : (Sign.ofBitVec bit).toBitVec = bit := by
  revert bit
  decide

theorem eq_topField_iff (e : BitVec 11) : e = -1#11 ↔ e.toNat = 2047 :=
  BitVec.toNat_inj.symm

theorem eq_zero_iff {n : Nat} (b : BitVec n) : b = 0#n ↔ b.toNat = 0 := by
  rw [← BitVec.toNat_inj, BitVec.toNat_ofNat, Nat.zero_mod]

theorem finite_congr {s : Sign} {m n : Nat} {e f : Int} {m_pos : 0 < m} {n_pos : 0 < n}
    (mantissa : m = n) (exponent : e = f) :
    UnpackedFloat.finite s m e m_pos = .finite s n f n_pos := by
  subst mantissa exponent
  rfl

section Fields

variable (s : Sign) (e : BitVec 11) (m : BitVec 52)

/-- The bit pattern with the given sign, exponent field and fraction. -/
abbrev bitPattern : BitVec 64 :=
  packComponents Format.binary64 s e m

theorem toNat_bitPattern :
    (bitPattern s e m).toNat = (s.toBitVec.toNat * 2048 + e.toNat) * Nat.pow 2 52 + m.toNat := by
  simp only [packComponents, BitVec.toNat_append]
  rw [← Nat.shiftLeft_add_eq_or_of_lt m.isLt, ← Nat.shiftLeft_add_eq_or_of_lt e.isLt,
    Nat.shiftLeft_eq, Nat.shiftLeft_eq]

theorem bitPattern_sign : (bitPattern s e m).toNat / Nat.pow 2 63 % 2 = s.toBitVec.toNat := by
  have sign := s.toBitVec.isLt
  have field := e.isLt
  have fraction := m.isLt
  rw [toNat_bitPattern]
  simp only [Nat.pow_eq, Nat.reducePow] at sign field fraction ⊢
  omega

theorem bitPattern_field : (bitPattern s e m).toNat / Nat.pow 2 52 % 2048 = e.toNat := by
  have field := e.isLt
  have fraction := m.isLt
  rw [toNat_bitPattern]
  simp only [Nat.pow_eq, Nat.reducePow] at field fraction ⊢
  omega

theorem bitPattern_fraction : (bitPattern s e m).toNat % Nat.pow 2 52 = m.toNat := by
  have fraction := m.isLt
  rw [toNat_bitPattern]
  simp only [Nat.pow_eq, Nat.reducePow] at fraction ⊢
  omega

theorem unpackSign_bitPattern :
    @unpackSign Format.binary64 (bitPattern s e m) = s.toBitVec := by
  have bit := BitVec.extractLsb_toNat 63 63 (bitPattern s e m)
  rw [Nat.shiftRight_eq_div_pow] at bit
  apply BitVec.eq_of_toNat_eq
  rw [← bitPattern_sign s e m]
  exact bit

theorem toNat_one_append : (1#1 ++ m).toNat = Nat.pow 2 52 + m.toNat := by
  rw [BitVec.toNat_append, ← Nat.shiftLeft_add_eq_or_of_lt m.isLt]
  rfl

/-- What a bit pattern unpacks to, by its fields. -/
theorem unpack_bitPattern :
    unpack Format.binary64 (bitPattern s e m) =
      if e = -1#11 then if m = 0#52 then .infinity s else .notANumber
      else if e = 0#11 then
        if some : m = 0#52 then .zero s
        else .finite s m.toNat (-1074) (Nat.pos_of_ne_zero (mt (eq_zero_iff m).mpr some))
      else
        .finite s (Nat.pow 2 52 + m.toNat) (e.toNat - 1075) (Nat.add_pos_left (by decide) _) := by
  have sign := unpackSign_bitPattern s e m
  have field : @unpackExponent Format.binary64 (bitPattern s e m) = e :=
    unpackExponent_packComponents
  have fraction : @unpackMantissa Format.binary64 (bitPattern s e m) = m :=
    unpackMantissa_packComponents
  -- The fields are named by the pattern, because the proof in the answer depends on them.
  generalize bitPattern s e m = b at sign field fraction
  subst field fraction
  unfold UnpackedFloat.unpack
  dsimp only
  rw [sign, ofBitVec_toBitVec]
  by_cases top : @unpackExponent Format.binary64 b = -1#11
  · rw [if_pos top, if_pos top]
  rw [if_neg top, if_neg top]
  by_cases least : @unpackExponent Format.binary64 b = 0#11
  · rw [if_pos least, if_pos least]
    by_cases none : @unpackMantissa Format.binary64 b = 0#52
    · rw [dif_pos none, dif_pos none]
    · rw [dif_neg none, dif_neg none]
      exact finite_congr rfl (by rw [(eq_zero_iff _).mp least]; rfl)
  · rw [if_neg least, if_neg least]
    exact finite_congr (toNat_one_append _) rfl

end Fields

/-- Every bit pattern has a sign, an exponent field and a fraction. -/
theorem exists_bitPattern (b : BitVec 64) : ∃ s e m, bitPattern s e m = b := by
  have bound := b.isLt
  refine ⟨Sign.ofBitVec (BitVec.ofNat 1 (b.toNat / Nat.pow 2 63)),
    BitVec.ofNat 11 (b.toNat / Nat.pow 2 52), BitVec.ofNat 52 b.toNat, ?_⟩
  apply BitVec.eq_of_toNat_eq
  rw [toNat_bitPattern, toBitVec_ofBitVec, BitVec.toNat_ofNat, BitVec.toNat_ofNat,
    BitVec.toNat_ofNat]
  simp only [Nat.reducePow, Nat.pow_eq] at bound ⊢
  omega

/-- What an unpacked double stands for. -/
def Binary.ofUnpacked : UnpackedFloat → Binary
  | .infinity s => .infinite (s == .negative)
  | .notANumber => .undefined
  | .zero s => .finite (s == .negative) 0 leastExponent
  | .finite s mantissa exponent _ => .finite (s == .negative) mantissa exponent

/-- Taking a double apart is unpacking it. -/
theorem Binary.ofFloat_eq (x : Float) : Binary.ofFloat x = Binary.ofUnpacked x.toModel.unpack := by
  obtain ⟨s, e, m, same⟩ := exists_bitPattern x.toModel.toBits.toBitVec
  have value : x.toBits.toNat = (bitPattern s e m).toNat := congrArg BitVec.toNat same.symm
  have unpacked : x.toModel.unpack = unpack Format.binary64 (bitPattern s e m) :=
    congrArg (unpack Format.binary64) same.symm
  have negative : (s.toBitVec.toNat == 1) = (s == .negative) := by cases s <;> rfl
  have top := eq_topField_iff e
  have least := eq_zero_iff e
  have none := eq_zero_iff m
  rw [unpacked, unpack_bitPattern, ofFloat, value, ofBits, fractionBits, topField,
    bitPattern_sign, bitPattern_field, bitPattern_fraction, negative]
  by_cases e_top : e.toNat = 2047
  · rw [if_pos (top.mpr e_top), if_pos e_top]
    by_cases m_none : m.toNat = 0
    · rw [if_pos (none.mpr m_none), if_pos m_none]
      rfl
    · rw [if_neg (mt none.mp m_none), if_neg m_none]
      rfl
  rw [if_neg (mt top.mp e_top), if_neg e_top]
  by_cases e_least : e.toNat = 0
  · rw [if_pos (least.mpr e_least), if_pos e_least]
    by_cases m_none : m.toNat = 0
    · rw [dif_pos (none.mpr m_none), m_none]
      rfl
    · rw [dif_neg (mt none.mp m_none)]
      rfl
  · have exponent : leastExponent + (e.toNat - 1 : Nat) = e.toNat - 1075 := by
      rw [leastExponent]
      omega
    rw [if_neg (mt least.mp e_least), if_neg e_least, exponent]
    rfl

/-! ### Packing and unpacking -/

/-- An unpacked double whose mantissa and exponent are those of a double. -/
def Canonical : UnpackedFloat → Prop
  | .finite _ mantissa exponent _ => IsDouble mantissa exponent
  | _ => True

/-- Every bit pattern unpacks to a canonical form. -/
theorem canonical_unpack (b : BitVec 64) : Canonical (unpack Format.binary64 b) := by
  obtain ⟨s, e, m, rfl⟩ := exists_bitPattern b
  have fraction : m.toNat < Nat.pow 2 52 := m.isLt
  have field := e.isLt
  rw [unpack_bitPattern]
  by_cases top : e = -1#11
  · rw [if_pos top]
    split <;> trivial
  rw [if_neg top]
  by_cases least : e = 0#11
  · rw [if_pos least]
    by_cases none : m = 0#52
    · rw [dif_pos none]
      trivial
    · rw [dif_neg none]
      exact ⟨Nat.pos_of_ne_zero (mt (eq_zero_iff m).mpr none), fraction.trans (by decide), le_rfl,
        by decide, .inr rfl⟩
  · rw [if_neg least]
    rw [eq_topField_iff] at top
    rw [eq_zero_iff] at least
    have carry : Nat.pow 2 53 = Nat.pow 2 52 + Nat.pow 2 52 := by decide
    exact ⟨Nat.add_pos_left (by decide) _, by omega, by omega, by omega,
      .inl (Nat.le_add_right _ _)⟩

/-- A mantissa with all its bits is stored without the first one. -/
theorem pack_normal (s : Sign) {m : Nat} {e : Int} (double : IsDouble m e)
    (full : Nat.pow 2 52 ≤ m) :
    UnpackedFloat.pack Format.binary64 (.finite s m e double.pos) =
      bitPattern s (BitVec.ofNat 11 (e + 1075).toNat) (BitVec.ofNat 52 m) := by
  have least := double.least
  have top := double.top
  have bits : m.log2 + 1 = Format.binary64.mantissaBits := by
    have low := (Nat.le_log2 double.pos.ne').mpr full
    have high := (Nat.log2_lt double.pos.ne').mpr double.fits
    change m.log2 + 1 = 53
    omega
  have biased : (e + (1023 : Nat) + (52 : Nat)).toNat = (e + 1075).toNat := by
    congr 1
    omega
  unfold UnpackedFloat.pack
  dsimp only [Format.exponentBias]
  rw [if_neg, if_pos bits]
  · rw [show ((2 ^ (11 - 1) - 1 : Nat) : Int) = (1023 : Nat) from rfl, biased]
  · rw [show ((2 ^ (11 - 1) - 1 : Nat) : Int) = (1023 : Nat) from rfl, biased]
    omega

/-- A mantissa that lacks its first bits is stored as it is, with the smallest exponent. -/
theorem pack_subnormal (s : Sign) {m : Nat} (pos : 0 < m) (short : m < Nat.pow 2 52) :
    UnpackedFloat.pack Format.binary64 (.finite s m (-1074) pos) =
      bitPattern s 0#11 (BitVec.ofNat 52 m) := by
  have bits : m.log2 + 1 ≠ Format.binary64.mantissaBits := by
    have high := (Nat.log2_lt pos.ne').mpr short
    change m.log2 + 1 ≠ 53
    omega
  unfold UnpackedFloat.pack
  dsimp only [Format.exponentBias]
  rw [if_neg (by decide), if_neg bits]

/-- Unpacking undoes packing. -/
theorem unpack_pack {u : UnpackedFloat} (canonical : Canonical u) :
    unpack Format.binary64 (UnpackedFloat.pack Format.binary64 u) = u := by
  cases u with
  | infinity s => cases s <;> rfl
  | notANumber => rfl
  | zero s => cases s <;> rfl
  | finite s m e pos =>
      have double : IsDouble m e := canonical
      have least := double.least
      have top := double.top
      have fits := double.fits
      by_cases full : Nat.pow 2 52 ≤ m
      · have carry : Nat.pow 2 53 = Nat.pow 2 52 + Nat.pow 2 52 := by decide
        have field : (BitVec.ofNat 11 (e + 1075).toNat).toNat = (e + 1075).toNat := by
          rw [BitVec.toNat_ofNat]
          omega
        have fraction : Nat.pow 2 52 + (BitVec.ofNat 52 m).toNat = m := by
          rw [BitVec.toNat_ofNat, Nat.mod_eq_sub_mod full, Nat.mod_eq_of_lt]
          · exact Nat.add_sub_cancel' full
          · omega
        rw [pack_normal s double full, unpack_bitPattern, if_neg, if_neg]
        · exact finite_congr fraction (by omega)
        · intro same
          rw [same, BitVec.toNat_ofNat] at field
          omega
        · intro same
          rw [same] at field
          simp at field
          omega
      · obtain rfl := double.full.resolve_left full
        have fraction : (BitVec.ofNat 52 m).toNat = m :=
          (BitVec.toNat_ofNat ..).trans (Nat.mod_eq_of_lt (Nat.lt_of_not_le full))
        rw [pack_subnormal s pos (Nat.lt_of_not_le full), unpack_bitPattern, if_neg (by decide),
          if_pos rfl, dif_neg]
        · exact finite_congr fraction rfl
        · intro same
          rw [same] at fraction
          exact pos.ne fraction

/-- Packing undoes unpacking, since there is only one undefined result. -/
theorem pack_unpack (b : BitVec 64) (valid : Format.binary64.Valid b) :
    UnpackedFloat.pack Format.binary64 (unpack Format.binary64 b) = b := by
  obtain ⟨s, e, m, rfl⟩ := exists_bitPattern b
  have field := e.isLt
  have fraction : m.toNat < Nat.pow 2 52 := m.isLt
  have canonical := canonical_unpack (bitPattern s e m)
  rw [unpack_bitPattern] at canonical ⊢
  by_cases top : e = -1#11
  · subst top
    rw [if_pos rfl]
    by_cases none : m = 0#52
    · subst none
      rfl
    · rw [if_neg none]
      exact (valid.eq_packedNaN unpackExponent_packComponents
        (by rwa [unpackMantissa_packComponents])).symm
  rw [if_neg top] at canonical ⊢
  by_cases least : e = 0#11
  · subst least
    rw [if_pos rfl]
    by_cases none : m = 0#52
    · subst none
      rfl
    · rw [dif_neg none, pack_subnormal _ _ fraction, BitVec.ofNat_toNat, BitVec.setWidth_eq]
  · rw [if_neg least] at canonical ⊢
    rw [pack_normal s canonical (Nat.le_add_right _ _)]
    congr 1
    · apply BitVec.eq_of_toNat_eq
      rw [BitVec.toNat_ofNat]
      omega
    · apply BitVec.eq_of_toNat_eq
      rw [BitVec.toNat_ofNat]
      simp only [Nat.pow_eq, Nat.reducePow] at fraction ⊢
      omega

theorem model_eq {f g : Float.Model} (same : f.toBits = g.toBits) : f = g := by
  cases f
  cases g
  cases same
  rfl

section Doubles

variable {x y : Float}

/-- The same for doubles themselves. -/
theorem ofModel_pack_unpack (x : Float) :
    Float.ofModel (Float.Model.pack x.toModel.unpack) = x := by
  have same : (Float.Model.pack x.toModel.unpack).toBits = x.toModel.toBits :=
    congrArg UInt64.ofBitVec (pack_unpack x.toModel.toBits.toBitVec x.toModel.valid)
  exact congrArg Float.ofModel (model_eq same)

/-- A double is determined by what it unpacks to. -/
theorem eq_of_unpack (same : x.toModel.unpack = y.toModel.unpack) : x = y := by
  rw [← ofModel_pack_unpack x, same, ofModel_pack_unpack]

theorem unpack_neg (x : Float) : (-x).toModel.unpack = x.toModel.unpack.neg := by
  have canonical : Canonical x.toModel.unpack.neg := by
    have whole : Canonical x.toModel.unpack := canonical_unpack x.toModel.toBits.toBitVec
    cases parts : x.toModel.unpack with
    | finite s m e pos =>
        rw [parts] at whole
        exact whole
    | _ => trivial
  exact unpack_pack canonical

theorem neg_neg_double (x : Float) : - -x = x := by
  apply eq_of_unpack
  rw [unpack_neg, unpack_neg]
  rcases x.toModel.unpack with (_ | _) | _ | (_ | _) | (_ | _) <;> rfl

/-! ### Commutative operations -/

theorem add_comm_unpacked (spec : Format) (u v : UnpackedFloat) : u.add spec v = v.add spec u := by
  cases u with
  | notANumber => cases v <;> rfl
  | infinity s =>
      cases v with
      | infinity t => cases s <;> cases t <;> rfl
      | notANumber | zero | finite => rfl
  | zero s =>
      cases v with
      | zero t => cases s <;> cases t <;> rfl
      | notANumber | infinity | finite => rfl
  | finite s m e =>
      cases v with
      | finite t n f =>
          -- Both mantissas are brought to the lesser exponent before they are added.
          unfold UnpackedFloat.add
          dsimp only
          rw [min_comm e f, Int.add_comm]
      | notANumber | infinity | zero => rfl

theorem mul_comm_unpacked (spec : Format) (u v : UnpackedFloat) : u.mul spec v = v.mul spec u := by
  have signs : ∀ s t : Sign, s * t = t * s := by
    intro s t
    cases s <;> cases t <;> rfl
  cases u with
  | notANumber => cases v <;> rfl
  | infinity s =>
      cases v with
      | infinity t | finite t => exact congrArg UnpackedFloat.infinity (signs s t)
      | notANumber | zero => rfl
  | zero s =>
      cases v with
      | zero t | finite t => exact congrArg UnpackedFloat.zero (signs s t)
      | notANumber | infinity => rfl
  | finite s m e =>
      cases v with
      | finite t n f =>
          unfold UnpackedFloat.mul
          dsimp only
          rw [signs s t, Nat.mul_comm, Int.add_comm]
      | infinity t => exact congrArg UnpackedFloat.infinity (signs s t)
      | zero t => exact congrArg UnpackedFloat.zero (signs s t)
      | notANumber => rfl

/-- Doubles can be exchanged in sums, those that are not numbers included. -/
theorem add_comm_double (x y : Float) : x + y = y + x :=
  congrArg (fun u => Float.ofModel (pack u))
    (add_comm_unpacked Format.binary64 x.toModel.unpack y.toModel.unpack)

/-- Doubles can be exchanged in products, those that are not numbers included. -/
theorem mul_comm_double (x y : Float) : x * y = y * x :=
  congrArg (fun u => Float.ofModel (pack u))
    (mul_comm_unpacked Format.binary64 x.toModel.unpack y.toModel.unpack)

/-! ### Finite doubles -/

/-- A finite double is a zero or has a mantissa. -/
theorem unpack_of_isFinite (finite : x.isFinite = true) :
    (∃ s, x.toModel.unpack = .zero s) ∨ ∃ s m e pos, x.toModel.unpack = .finite s m e pos := by
  change x.toModel.unpack.isFinite = true at finite
  cases parts : x.toModel.unpack with
  | infinity s =>
      rw [parts] at finite
      cases finite
  | notANumber =>
      rw [parts] at finite
      cases finite
  | zero s => exact .inl ⟨s, rfl⟩
  | finite s m e pos => exact .inr ⟨s, m, e, pos, rfl⟩

section Parts

variable {s : Sign} {m : Nat} {e : Int} {pos : 0 < m}

theorem isFinite_of_unpack (parts : x.toModel.unpack = .finite s m e pos) :
    x.isFinite = true := by
  change x.toModel.unpack.isFinite = true
  rw [parts]
  rfl

theorem isDouble_of_unpack (parts : x.toModel.unpack = .finite s m e pos) :
    IsDouble m e := by
  have canonical : Canonical x.toModel.unpack := canonical_unpack x.toModel.toBits.toBitVec
  rwa [parts] at canonical

theorem unpack_neg_of_negative (parts : x.toModel.unpack = .finite .negative m e pos) :
    (-x).toModel.unpack = .finite .positive m e pos := by
  rw [unpack_neg, parts]
  rfl

end Parts

/-- A finite double above zero. -/
def IsPositive (x : Float) : Prop :=
  ∃ m e pos, x.toModel.unpack = .finite .positive m e pos

/-- One of the two zeros. -/
def IsZero (x : Float) : Prop :=
  x = 0 ∨ x = -0

/-- A finite double above or below zero. -/
def IsSigned (x : Float) : Prop :=
  IsPositive x ∨ IsPositive (-x)

/-! ### Comparisons -/

theorem beq_zero_of_unpack {s : Sign} (parts : x.toModel.unpack = .zero s) : (x == 0) = true := by
  change x.toModel.unpack.beq (.zero .positive) = true
  rw [parts]
  rfl

theorem lt_double_iff (x y : Float) :
    x < y ↔ x.toModel.unpack.lt y.toModel.unpack = true :=
  decide_eq_true_iff

theorem IsPositive.zero_lt (positive : IsPositive x) : 0 < x ∧ ¬ x < 0 := by
  obtain ⟨m, e, pos, parts⟩ := positive
  rw [lt_double_iff, lt_double_iff, parts]
  exact ⟨rfl, Bool.false_ne_true⟩

theorem unpack_of_isPositive_neg (positive : IsPositive (-x)) :
    ∃ m e pos, x.toModel.unpack = .finite .negative m e pos := by
  obtain ⟨m, e, pos, parts⟩ := positive
  have flipped := unpack_neg (-x)
  rw [neg_neg_double, parts] at flipped
  exact ⟨m, e, pos, flipped⟩

theorem lt_zero_of_neg (positive : IsPositive (-x)) : x < 0 ∧ ¬ 0 < x := by
  obtain ⟨m, e, pos, parts⟩ := unpack_of_isPositive_neg positive
  rw [lt_double_iff, lt_double_iff, parts]
  exact ⟨rfl, Bool.false_ne_true⟩

theorem IsZero.beq_zero (zero : IsZero x) : (x == 0) = true := by
  rcases zero with rfl | rfl <;> rfl

theorem IsSigned.beq_zero (signed : IsSigned x) : (x == 0) = false := by
  have parts : ∃ s m e pos, x.toModel.unpack = .finite s m e pos := by
    rcases signed with positive | positive
    · exact ⟨.positive, positive⟩
    · exact ⟨.negative, unpack_of_isPositive_neg positive⟩
  obtain ⟨s, m, e, pos, parts⟩ := parts
  change x.toModel.unpack.beq (.zero .positive) = false
  rw [parts]
  cases s <;> rfl

/-- A finite double is a zero, above zero or below zero. -/
theorem sign_cases (finite : x.isFinite = true) : IsZero x ∨ IsSigned x := by
  obtain ⟨s, parts⟩ | ⟨s, m, e, pos, parts⟩ := unpack_of_isFinite finite
  · cases s with
    | positive => exact .inl (.inl (eq_of_unpack parts))
    | negative => exact .inl (.inr (eq_of_unpack (parts.trans (unpack_neg 0).symm)))
  · cases s with
    | positive => exact .inr (.inl ⟨m, e, pos, parts⟩)
    | negative => exact .inr (.inr ⟨m, e, pos, unpack_neg_of_negative parts⟩)

theorem compare_then_eq {e₁ e₂ : Int} {m₁ m₂ : Nat}
    (same : (compare e₁ e₂).then (compare m₁ m₂) = .eq) : e₁ = e₂ ∧ m₁ = m₂ := by
  rw [Ordering.then_eq_eq] at same
  exact ⟨Int.compare_eq_eq.mp same.1, Nat.compare_eq_eq.mp same.2⟩

/-- In canonical form, only zeros compare as equal without being the same. -/
theorem eq_of_beq_unpacked {u v : UnpackedFloat} (same : u.beq v = true) :
    u = v ∨ (∃ s, u = .zero s) ∧ ∃ s, v = .zero s := by
  have order : u.compare v = some .eq := eq_of_beq same
  cases u with
  | notANumber => cases order
  | infinity s =>
      cases v with
      | infinity t => cases s <;> cases t <;> first | exact .inl rfl | cases order
      | notANumber => cases s <;> cases order
      | zero t => cases s <;> cases order
      | finite t m e pos => cases s <;> cases order
  | zero s =>
      cases v with
      | infinity t => cases t <;> cases order
      | notANumber => cases order
      | zero t => exact .inr ⟨⟨s, rfl⟩, t, rfl⟩
      | finite t m e pos => cases t <;> cases order
  | finite s m e pos =>
      cases v with
      | infinity t => cases s <;> cases t <;> cases order
      | notANumber => cases s <;> cases order
      | zero t => cases s <;> cases order
      | finite t n f pos =>
          left
          cases s with
          | positive =>
              cases t with
              | positive =>
                  obtain ⟨rfl, rfl⟩ := compare_then_eq (Option.some.inj order)
                  rfl
              | negative => cases order
          | negative =>
              cases t with
              | positive => cases order
              | negative =>
                  obtain ⟨rfl, rfl⟩ :=
                    compare_then_eq (Ordering.swap_eq_eq.mp (Option.some.inj order))
                  rfl

/-- Equal doubles are the same, except for the two zeros. -/
theorem eq_of_beq_double (same : (x == y) = true) :
    x = y ∨ (x == 0) = true ∧ (y == 0) = true := by
  rcases eq_of_beq_unpacked (show x.toModel.unpack.beq y.toModel.unpack = true from same) with
    same | ⟨⟨s, left⟩, t, right⟩
  · exact .inl (eq_of_unpack same)
  · exact .inr ⟨beq_zero_of_unpack left, beq_zero_of_unpack right⟩

theorem beq_self_of_isFinite (finite : x.isFinite = true) : (x == x) = true := by
  change x.toModel.unpack.beq x.toModel.unpack = true
  obtain ⟨s, parts⟩ | ⟨s, m, e, pos, parts⟩ := unpack_of_isFinite finite
  · rw [parts]
    rfl
  · have order : (compare e e).then (compare m m) = .eq :=
      Ordering.then_eq_eq.mpr ⟨Int.compare_eq_eq.mpr rfl, Nat.compare_eq_eq.mpr rfl⟩
    have equal : (UnpackedFloat.finite s m e pos).compare (.finite s m e pos) = some .eq := by
      cases s with
      | positive => exact congrArg some order
      | negative => exact congrArg some (Ordering.swap_eq_eq.mpr order)
    rw [parts]
    exact beq_of_eq equal

end Doubles

end QuantumAssembler.Decimal
