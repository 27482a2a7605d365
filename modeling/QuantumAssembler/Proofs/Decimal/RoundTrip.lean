import QuantumAssembler.Decimal.Positional
import QuantumAssembler.Decimal.Reading
import QuantumAssembler.Proofs.Decimal.Shortest

/-!
Module: QuantumAssembler.Proofs.Decimal.RoundTrip
Purpose: The text of a finite double reads back as the double. Positional notation writes the digits
  of the shortest decimal around a decimal point; as a literal it has the value of that decimal,
  which rounds to the double.
Main exports: pointed, Places, positional_eq, Literal.unpack_magnitude, Unsigned,
  IsPositive.readFinite?_signed, readFinite?_floatText
-/

namespace QuantumAssembler.Decimal

open Float.Model Float.Model.UnpackedFloat

/-! ### Rows of digits -/

theorem valueOf_toDigits (n : Nat) : valueOf (digitsOf n) = n :=
  Nat.ofDigitChars_ten_toDigits

theorem isDigit_of_mem_digitsOf {n : Nat} {c : Char} (member : c ∈ digitsOf n) :
    c.isDigit = true :=
  Nat.isDigit_of_mem_toDigits (by decide) (by decide) member

theorem foldl_digits_replicate (places value : Nat) :
    (List.replicate places '0').foldl (fun value d => 10 * value + digitValue d) value =
      value * 10 ^ places := by
  induction places generalizing value with
  | zero => simp
  | succ places ih =>
      have nought : digitValue '0' = 0 := rfl
      rw [List.replicate_succ, List.foldl_cons, ih, nought, pow_succ]
      ring

/-- Noughts behind a row multiply it by a power of ten. -/
theorem valueOf_append_replicate (row : List Char) (places : Nat) :
    valueOf (row ++ List.replicate places '0') = valueOf row * 10 ^ places := by
  rw [valueOf, List.foldl_append, foldl_digits_replicate]
  rfl

/-- Noughts in front of a row change nothing. -/
theorem valueOf_replicate_append (places : Nat) (row : List Char) :
    valueOf (List.replicate places '0' ++ row) = valueOf row := by
  rw [valueOf, List.foldl_append, foldl_digits_replicate, Nat.zero_mul]
  rfl

/-! ### Positional notation -/

/-- The text with the given digits in front of the decimal point and behind it. A whole number has
    no decimal point. -/
def pointed (whole fraction : List Char) : List Char :=
  whole ++ if fraction = [] then [] else '.' :: fraction

/-- Digits in front of the decimal point, of which there are some, and digits behind it. -/
structure Places (whole fraction : List Char) : Prop where
  some : whole ≠ []
  whole : ∀ c ∈ whole, c.isDigit = true
  fraction : ∀ c ∈ fraction, c.isDigit = true

theorem pointed_of_ne_nil (whole : List Char) {fraction : List Char} (some : fraction ≠ []) :
    pointed whole fraction = whole ++ '.' :: fraction := by
  rw [pointed, if_neg some]

/-- Positional notation writes the digits of the number around the decimal point. -/
theorem positional_eq (d : Scaled) :
    ∃ whole fraction, positional d = pointed whole fraction ∧ Places whole fraction ∧
      (valueOf (whole ++ fraction) * 10 ^ (-fraction.length : Int) : ℚ) =
        d.digits * 10 ^ d.exponent := by
  have digits : ∀ c ∈ digitsOf d.digits, c.isDigit = true := fun c => isDigit_of_mem_digitsOf
  have noughts : ∀ places, ∀ c ∈ List.replicate places '0', c.isDigit = true := by
    intro places c member
    rw [List.eq_of_mem_replicate member]
    rfl
  unfold positional
  dsimp only
  split
  · rename_i up
    obtain ⟨places, exponent⟩ := Int.eq_ofNat_of_zero_le up
    refine ⟨_, [], (List.append_nil _).symm, ⟨?_, ?_, ?_⟩, ?_⟩
    · exact List.append_ne_nil_of_left_ne_nil Nat.toDigits_ne_nil _
    · intro c member
      exact (List.mem_append.mp member).elim (digits c) (noughts _ c)
    · simp
    · rw [List.append_nil, valueOf_append_replicate, valueOf_toDigits, exponent]
      simp
  · rename_i down
    obtain ⟨places, exponent⟩ : ∃ places : Nat, d.exponent = -places :=
      ⟨d.exponent.natAbs, by omega⟩
    rw [exponent, neg_neg, Int.toNat_natCast]
    split
    · rename_i inside
      have length : ((digitsOf d.digits).drop ((digitsOf d.digits).length - places)).length =
          places := by
        rw [List.length_drop]
        omega
      refine ⟨_, _, (pointed_of_ne_nil _ ?_).symm, ⟨?_, ?_, ?_⟩, ?_⟩
      · exact List.ne_nil_of_length_pos (by omega)
      · exact List.ne_nil_of_length_pos (by rw [List.length_take]; omega)
      · exact fun c member => digits c (List.mem_of_mem_take member)
      · exact fun c member => digits c (List.mem_of_mem_drop member)
      · rw [List.take_append_drop, valueOf_toDigits, length]
    · rename_i outside
      have length : (List.replicate (places - (digitsOf d.digits).length) '0' ++
          digitsOf d.digits).length = places := by
        rw [List.length_append, List.length_replicate]
        omega
      refine ⟨['0'], _, (pointed_of_ne_nil ['0'] ?_).symm, ⟨?_, ?_, ?_⟩, ?_⟩
      · exact List.append_ne_nil_of_right_ne_nil _ Nat.toDigits_ne_nil
      · exact List.cons_ne_nil _ _
      · simp
      · intro c member
        exact (List.mem_append.mp member).elim (noughts _ c) (digits c)
      · have front : ['0'] ++ (List.replicate (places - (digitsOf d.digits).length) '0' ++
            digitsOf d.digits) =
            List.replicate (places - (digitsOf d.digits).length + 1) '0' ++ digitsOf d.digits := by
          rw [List.replicate_succ]
          rfl
        rw [length, front, valueOf_replicate_append, valueOf_toDigits]

/-! ### Reading -/

theorem takeWhile_append_stop {front : List Char} (digits : ∀ c ∈ front, c.isDigit = true)
    (rest : List Char) (stop : ∀ c ∈ rest.head?, c.isDigit = false) :
    (front ++ rest).takeWhile Char.isDigit = front ∧
      (front ++ rest).dropWhile Char.isDigit = rest := by
  rw [List.takeWhile_append_of_pos digits, List.dropWhile_append_of_pos digits]
  cases rest with
  | nil => simp
  | cons c rest =>
      have first := stop c rfl
      simp [first]

/-- A text in positional notation is a literal, also behind a sign. -/
theorem ofChars?_pointed {whole fraction : List Char} (places : Places whole fraction)
    {cs : List Char} {negative : Bool}
    (sign : Literal.takeSign cs = (negative, pointed whole fraction)) :
    Literal.ofChars? cs = some ⟨negative, whole, fraction, 0⟩ := by
  unfold Literal.ofChars?
  rw [sign]
  dsimp only
  by_cases none : fraction = []
  · obtain ⟨front, rest⟩ := takeWhile_append_stop places.whole [] (by simp)
    rw [none, pointed, if_pos rfl, front, rest, if_neg fun empty => places.some empty.1]
    rfl
  · obtain ⟨front, rest⟩ := takeWhile_append_stop places.whole ('.' :: fraction) (by simp)
    obtain ⟨digits, ending⟩ := takeWhile_append_stop places.fraction [] (by simp)
    rw [List.append_nil] at digits ending
    rw [pointed_of_ne_nil whole none, front, rest]
    change (if whole = [] ∧ fraction.takeWhile Char.isDigit = [] then Option.none
      else (Literal.exponent? (fraction.dropWhile Char.isDigit)).map fun exponent =>
        Literal.mk negative whole (fraction.takeWhile Char.isDigit) exponent) = _
    rw [digits, ending, if_neg fun empty => places.some empty.1]
    rfl

/-! ### The size of a literal -/

/-- The number of digits, counted in powers of ten. -/
theorem pow_le_of_toDigits {n : Nat} (some : n ≠ 0) :
    Nat.pow 10 ((Nat.toDigits 10 n).length - 1) ≤ n ∧
      n < Nat.pow 10 (Nat.toDigits 10 n).length := by
  have pos : 0 < (Nat.toDigits 10 n).length := Nat.length_toDigits_pos
  refine ⟨?_, (Nat.length_toDigits_le_iff (by decide) pos).mp le_rfl⟩
  by_cases one : (Nat.toDigits 10 n).length = 1
  · rw [one]
    exact Nat.pos_of_ne_zero some
  · by_contra small
    have := (Nat.length_toDigits_le_iff (n := n) (b := 10) (by decide)
      (Nat.sub_pos_of_lt (by omega))).mpr (Nat.lt_of_not_le small)
    omega

theorem two_zpow_le_of_pow_le {a b : Nat} (le : Nat.pow 2 a ≤ Nat.pow 10 b) :
    (2 : ℚ) ^ (a : Int) ≤ 10 ^ (b : Int) := by
  rw [zpow_natCast, zpow_natCast]
  exact_mod_cast le

theorem ten_zpow_lt {a b : Int} {y : ℚ} (below : 10 ^ a ≤ y) (above : y < 10 ^ b) : a < b :=
  (zpow_lt_zpow_iff_right₀ (by norm_num)).mp (below.trans_lt above)

/-- The number of digits and the scale say how large a decimal is. -/
theorem zpow_le_decimal {n : Nat} (some : n ≠ 0) (scale : Int) :
    (10 : ℚ) ^ (scale + (Nat.toDigits 10 n).length - 1) ≤ n * 10 ^ scale ∧
      n * 10 ^ scale < (10 : ℚ) ^ (scale + (Nat.toDigits 10 n).length) := by
  have unit : (0 : ℚ) < 10 ^ scale := zpow_pos (by norm_num) _
  have pos : 0 < (Nat.toDigits 10 n).length := Nat.length_toDigits_pos
  obtain ⟨low, high⟩ := pow_le_of_toDigits some
  generalize (Nat.toDigits 10 n).length = length at low high pos
  have first : scale + length - 1 = (length - 1 : Nat) + scale := by omega
  constructor
  · rw [first, zpow_add₀ (by norm_num), mul_le_mul_iff_left₀ unit, zpow_natCast]
    exact_mod_cast low
  · rw [add_comm, zpow_add₀ (by norm_num), mul_lt_mul_iff_left₀ unit, zpow_natCast]
    exact_mod_cast high

/-- How large a number can be that rounds to a positive double, and how small. -/
theorem RoundsTo.range {m : Nat} {e : Int} {y : ℚ} (double : IsDouble m e)
    (rounds : RoundsTo m e y) : (10 : ℚ) ^ (-330 : Int) ≤ y ∧ y < (10 : ℚ) ^ (310 : Int) := by
  have least := double.least
  have top := double.top
  constructor
  · calc (10 : ℚ) ^ (-330 : Int) ≤ 2 ^ (-1075 : Int) :=
          zpow_le_of_pow_le (t := 0) (n := 0) (a := 1075) (b := 330) (by decide +kernel)
      _ ≤ 2 ^ (e - 1) := zpow_le_zpow_right₀ one_le_two (by omega)
      _ ≤ y := rounds.zpow_le double
  · calc y < (2 : ℚ) ^ (e + 53) := rounds.lt_zpow double
      _ ≤ 2 ^ (1024 : Int) := zpow_le_zpow_right₀ one_le_two (by omega)
      _ ≤ 10 ^ (310 : Int) := two_zpow_le_of_pow_le (a := 1024) (b := 310) (by decide +kernel)

namespace Literal

variable {m : Nat} {e : Int} {l : Literal}

/-- A literal that rounds to a positive double is judged neither too small nor too large. -/
theorem size_bounds (double : IsDouble m e) (rounds : RoundsTo m e (l.significand * 10 ^ l.scale)) :
    l.significand ≠ 0 ∧ bottomScale ≤ l.scale + (Nat.toDigits 10 l.significand).length ∧
      l.scale + (Nat.toDigits 10 l.significand).length ≤ topScale := by
  have some : l.significand ≠ 0 := by
    intro zero
    have positive := (two_zpow_pos (e - 1)).trans_le (rounds.zpow_le double)
    rw [zero, Nat.cast_zero, zero_mul] at positive
    exact lt_irrefl 0 positive
  obtain ⟨smallest, largest⟩ := rounds.range double
  obtain ⟨front, behind⟩ := zpow_le_decimal some l.scale
  have bottom := ten_zpow_lt smallest behind
  have reach := ten_zpow_lt front largest
  refine ⟨some, ?_, ?_⟩
  · rw [bottomScale]
    omega
  · rw [topScale]
    omega

/-- A literal without its sign is the double that it rounds to. -/
theorem unpack_magnitude (double : IsDouble m e)
    (rounds : RoundsTo m e (l.significand * 10 ^ l.scale)) :
    l.magnitude.toModel.unpack = .finite .positive m e double.pos := by
  obtain ⟨some, bottom, top⟩ := size_bounds double rounds
  have counts : ¬ (l.significand = 0 ∨
      l.scale + (Nat.toDigits 10 l.significand).length < bottomScale) :=
    not_or.mpr ⟨some, not_lt.mpr bottom⟩
  unfold magnitude
  dsimp only
  rw [if_neg counts, if_neg (not_lt.mpr top)]
  apply unpack_ofScientific double some
  have scale : (if decide (l.scale < 0) = true then -l.scale.natAbs else l.scale.natAbs : Int) =
      l.scale := by
    simp only [decide_eq_true_eq]
    split <;> omega
  rwa [scale]

end Literal

/-! ### Texts that read back -/

/-- A digit or a decimal point. -/
def IsPlain (c : Char) : Prop :=
  c.isDigit = true ∨ c = '.'

instance (c : Char) : Decidable (IsPlain c) :=
  inferInstanceAs (Decidable (_ ∨ _))

/-- A text of digits and decimal points, without a sign. -/
def Unsigned (cs : List Char) : Prop :=
  cs ≠ [] ∧ ∀ c ∈ cs, IsPlain c

theorem Places.unsigned {whole fraction : List Char} (places : Places whole fraction) :
    Unsigned (pointed whole fraction) := by
  refine ⟨List.append_ne_nil_of_left_ne_nil places.some _, ?_⟩
  intro c member
  rcases List.mem_append.mp member with member | member
  · exact .inl (places.whole c member)
  · split at member
    · cases member
    · rcases List.mem_cons.mp member with rfl | member
      · exact .inr rfl
      · exact .inl (places.fraction c member)

theorem Unsigned.takeSign {cs : List Char} (unsigned : Unsigned cs) :
    Literal.takeSign cs = (false, cs) := by
  obtain ⟨some, chars⟩ := unsigned
  unfold Literal.takeSign
  split
  · exact absurd (chars '-' List.mem_cons_self) (by decide)
  · exact absurd (chars '+' List.mem_cons_self) (by decide)
  · rfl

section Doubles

variable {x : Float} {m : Nat} {e : Int} {pos : 0 < m}

theorem floatText_of_unpack (parts : x.toModel.unpack = .finite .positive m e pos) :
    floatText x = positional (shortest m e) := by
  rw [floatText, Binary.ofFloat_eq, parts]
  exact if_neg pos.ne'

theorem IsPositive.unsigned_floatText (positive : IsPositive x) : Unsigned (floatText x) := by
  obtain ⟨m, e, pos, parts⟩ := positive
  obtain ⟨whole, fraction, text, places, -⟩ := positional_eq (shortest m e)
  rw [floatText_of_unpack parts, text]
  exact places.unsigned

/-- A double below zero is written with a minus. -/
theorem floatText_of_isPositive_neg (positive : IsPositive (-x)) :
    floatText x = '-' :: floatText (-x) := by
  obtain ⟨m, e, pos, parts⟩ := unpack_of_isPositive_neg positive
  rw [floatText_of_unpack (unpack_neg_of_negative parts), floatText, Binary.ofFloat_eq, parts]
  exact congrArg (List.cons '-') (if_neg pos.ne')

/-- The text of a positive double reads back, also behind a sign. -/
theorem IsPositive.readFinite?_signed (positive : IsPositive x) {cs : List Char} {negative : Bool}
    (sign : Literal.takeSign cs = (negative, floatText x)) :
    readFinite? cs = some (if negative then -x else x) := by
  obtain ⟨m, e, pos, parts⟩ := positive
  have double := isDouble_of_unpack parts
  obtain ⟨whole, fraction, text, places, value⟩ := positional_eq (shortest m e)
  rw [floatText_of_unpack parts, text] at sign
  have rounds := shortest_roundsTo double
  rw [← value, ← zero_sub] at rounds
  have read : (Literal.magnitude ⟨negative, whole, fraction, 0⟩).toModel.unpack =
      .finite .positive m e pos :=
    Literal.unpack_magnitude double rounds
  have same : Literal.magnitude ⟨negative, whole, fraction, 0⟩ = x :=
    eq_of_unpack (read.trans parts.symm)
  have signed : Literal.value ⟨negative, whole, fraction, 0⟩ = if negative then -x else x :=
    congrArg (fun magnitude : Float => if negative then -magnitude else magnitude) same
  have finite : (if negative then -x else x).isFinite = true := by
    cases negative
    · exact isFinite_of_unpack parts
    · exact isFinite_of_unpack ((unpack_neg x).trans (congrArg UnpackedFloat.neg parts))
  unfold readFinite?
  rw [ofChars?_pointed places sign]
  change (if (Literal.value ⟨negative, whole, fraction, 0⟩).isFinite then
    some (Literal.value ⟨negative, whole, fraction, 0⟩) else none) = _
  rw [signed, if_pos finite]

/-- The text of a finite double reads back. -/
theorem readFinite?_floatText (finite : x.isFinite = true) :
    readFinite? (floatText x) = some x := by
  rcases sign_cases finite with (rfl | rfl) | positive | positive
  · rfl
  · rfl
  · exact positive.readFinite?_signed positive.unsigned_floatText.takeSign
  · have sign : Literal.takeSign (floatText x) = (true, floatText (-x)) := by
      rw [floatText_of_isPositive_neg positive]
      rfl
    rw [positive.readFinite?_signed sign, if_pos rfl, neg_neg_double]

end Doubles

end QuantumAssembler.Decimal
