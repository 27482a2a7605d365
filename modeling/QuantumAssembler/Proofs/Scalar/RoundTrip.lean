import QuantumAssembler.Proofs.Decimal.RoundTrip
import QuantumAssembler.Proofs.Text.Margins
import QuantumAssembler.Scalar.Written

/-!
Module: QuantumAssembler.Proofs.Scalar.RoundTrip
Purpose: The text of a scalar with finite parts parses back. The parts are written with digits,
  decimal points and at most one minus, so the sign in front of the imaginary part is the last sign
  of the text, and there the text is cut. Left out are only zero parts and the coefficient one, and
  reading supplies both. What a text does not show is the sign of a zero part.
Main exports: SignsInPlace, cutAtSign_append, readCoefficient?_signed, plainZeros, read?_spell,
  text_parses_back
-/

namespace QuantumAssembler.Scalar

open Decimal

/-! ### Cutting a text -/

/-- Digits and decimal points are not among the characters that structure a scalar. -/
theorem apart_of_isPlain {c : Char} (plain : IsPlain c) :
    isSign c = false ∧ isExponentMark c = false ∧ c ≠ 'i' ∧ Text.isWhiteSpace c = false := by
  have apart : ∀ n ∈ 46 :: List.range' 48 10,
      isSign (Char.ofNat n) = false ∧ isExponentMark (Char.ofNat n) = false ∧
        Char.ofNat n ≠ 'i' ∧ Text.isWhiteSpace (Char.ofNat n) = false := by
    decide
  have found : c.toNat ∈ 46 :: List.range' 48 10 := by
    rcases plain with digit | rfl
    · have range : 48 ≤ c.toNat ∧ c.toNat ≤ 57 := by
        simpa [Char.isDigit, UInt32.le_iff_toNat_le] using digit
      simp only [List.mem_cons, List.mem_range'_1]
      omega
    · decide
  have facts := apart c.toNat found
  rwa [Char.ofNat_toNat] at facts

/-- A sign stands only first in the text or directly behind an exponent mark. -/
def SignsInPlace (cs : List Char) : Prop :=
  cs.IsChain fun previous c => isSign c = true → isExponentMark previous = true

theorem signsInPlace_of_tail {cs : List Char} (noSign : ∀ c ∈ cs.tail, isSign c = false) :
    SignsInPlace cs := by
  induction cs with
  | nil => exact .nil
  | cons previous rest ih =>
      cases rest with
      | nil => exact .singleton previous
      | cons c rest =>
          have first : isSign c = false := noSign c List.mem_cons_self
          refine List.isChain_cons_cons.mpr ⟨fun signed => ?_, ih fun d member => ?_⟩
          · simp [first] at signed
          · exact noSign d (List.mem_cons_of_mem c member)

theorem cutBehind_eq_none_iff {previous : Char} {cs : List Char} :
    cutBehind previous cs = none ↔ SignsInPlace (previous :: cs) := by
  induction cs generalizing previous with
  | nil => exact iff_of_true rfl (.singleton previous)
  | cons c rest ih =>
      rw [SignsInPlace, List.isChain_cons_cons, ← SignsInPlace, ← ih, cutBehind]
      cases cutBehind c rest with
      | some parts => simp
      | none => simp

/-- A text is not cut exactly if its signs are in place. -/
theorem cutAtSign_eq_none_iff {cs : List Char} : cutAtSign cs = none ↔ SignsInPlace cs := by
  cases cs with
  | nil => exact iff_of_true rfl .nil
  | cons c rest => rw [cutAtSign, Option.map_eq_none_iff, cutBehind_eq_none_iff]

theorem cutBehind_append {front back : List Char} {previous sign : Char}
    (signed : isSign sign = true)
    (noMark : ∀ c ∈ (previous :: front).getLast?, isExponentMark c = false)
    (inPlace : SignsInPlace (sign :: back)) :
    cutBehind previous (front ++ sign :: back) = some (front, sign :: back) := by
  induction front generalizing previous with
  | nil =>
      rw [List.nil_append, cutBehind, cutBehind_eq_none_iff.mpr inPlace]
      simp [signed, noMark previous rfl]
  | cons c front ih => rw [List.cons_append, cutBehind, ih noMark]

/-- Two parts are cut where the later one begins, if it begins with a sign, the earlier one does not
    end with an exponent mark, and no further sign of the later one is out of place. -/
theorem cutAtSign_append {front back : List Char} {sign : Char} (some : front ≠ [])
    (signed : isSign sign = true) (noMark : ∀ c ∈ front.getLast?, isExponentMark c = false)
    (inPlace : SignsInPlace (sign :: back)) :
    cutAtSign (front ++ sign :: back) = .some (front, sign :: back) := by
  cases front with
  | nil => exact absurd rfl some
  | cons c front =>
      rw [List.cons_append, cutAtSign, cutBehind_append signed noMark inPlace]
      rfl

theorem exists_of_cutBehind_eq_some {previous : Char} {cs front back : List Char}
    (cut : cutBehind previous cs = some (front, back)) :
    front ++ back = cs ∧ ∃ sign ∈ back.head?, isSign sign = true := by
  induction cs generalizing previous front with
  | nil => cases cut
  | cons c rest ih =>
      rw [cutBehind] at cut
      split at cut
      · rename_i later
        obtain ⟨rfl, rfl⟩ := Prod.mk.inj (Option.some.inj cut)
        obtain ⟨whole, signed⟩ := ih later
        exact ⟨congrArg (List.cons c) whole, signed⟩
      · split at cut
        · rename_i signed
          obtain ⟨rfl, rfl⟩ := Prod.mk.inj (Option.some.inj cut)
          exact ⟨rfl, c, rfl, (Bool.and_eq_true_iff.mp signed).1⟩
        · cases cut

/-- The parts of a text that was cut make it up, and the later one begins with a sign. -/
theorem exists_of_cutAtSign_eq_some {cs front back : List Char}
    (cut : cutAtSign cs = some (front, back)) :
    front ++ back = cs ∧ ∃ sign ∈ back.head?, isSign sign = true := by
  cases cs with
  | nil => cases cut
  | cons c rest =>
      obtain ⟨⟨fore, rear⟩, found, same⟩ := Option.map_eq_some_iff.mp cut
      obtain ⟨rfl, rfl⟩ := Prod.mk.inj same
      obtain ⟨whole, signed⟩ := exists_of_cutBehind_eq_some found
      exact ⟨congrArg (List.cons c) whole, signed⟩

/-! ### Coefficients -/

section Coefficients

variable {x : Float}

theorem unsigned_of_isPositive (positive : IsPositive x) : unsigned x = x :=
  if_neg positive.zero_lt.2

theorem unsigned_of_isPositive_neg (positive : IsPositive (-x)) : unsigned x = -x :=
  if_pos (lt_zero_of_neg positive).1

theorem isPositive_unsigned (signed : IsSigned x) : IsPositive (unsigned x) := by
  rcases signed with positive | positive
  · rwa [unsigned_of_isPositive positive]
  · rwa [unsigned_of_isPositive_neg positive]

theorem isPlain_of_mem_coefficient (positive : IsPositive (unsigned x)) {c : Char}
    (member : c ∈ coefficient x) : IsPlain c := by
  unfold coefficient at member
  split at member
  · cases member
  · exact positive.unsigned_floatText.2 c member

/-- What is left after a sign is taken off. -/
theorem takeSign_eq {cs body : List Char} {negative : Bool}
    (sign : Literal.takeSign cs = (negative, body)) :
    cs = body ∧ negative = false ∨ cs = '-' :: body ∧ negative = true ∨
      cs = '+' :: body ∧ negative = false := by
  unfold Literal.takeSign at sign
  split at sign
  · obtain ⟨rfl, rfl⟩ := Prod.mk.inj sign
    exact .inr (.inl ⟨rfl, rfl⟩)
  · obtain ⟨rfl, rfl⟩ := Prod.mk.inj sign
    exact .inr (.inr ⟨rfl, rfl⟩)
  · obtain ⟨rfl, rfl⟩ := Prod.mk.inj sign
    exact .inl ⟨rfl, rfl⟩

/-- A coefficient reads back, also behind a sign. -/
theorem readCoefficient?_coefficient (positive : IsPositive (unsigned x)) {cs : List Char}
    {negative : Bool} (sign : Literal.takeSign cs = (negative, coefficient x)) :
    readCoefficient? cs = some (if negative then -unsigned x else unsigned x) := by
  unfold coefficient at sign
  split at sign
  · rename_i one
    have same : unsigned x = 1 := by
      rcases eq_of_beq_double one with same | ⟨-, absurd⟩
      · exact same
      · cases absurd
    rw [same]
    rcases takeSign_eq sign with ⟨rfl, rfl⟩ | ⟨rfl, rfl⟩ | ⟨rfl, rfl⟩ <;> rfl
  · have read := positive.readFinite?_signed sign
    have some := positive.unsigned_floatText.1
    unfold readCoefficient?
    split
    · exact absurd (Prod.mk.inj sign).2.symm some
    · exact absurd (Prod.mk.inj sign).2.symm some
    · exact absurd (Prod.mk.inj sign).2.symm some
    · exact read

theorem takeSign_coefficient (positive : IsPositive (unsigned x)) :
    Literal.takeSign (coefficient x) = (false, coefficient x) := by
  unfold coefficient
  split
  · rfl
  · exact positive.unsigned_floatText.takeSign

/-- The sign of the imaginary part in front of its coefficient gives the part back. -/
theorem readCoefficient?_signed (signed : IsSigned x) :
    readCoefficient? ((if 0 < x then '+' else '-') :: coefficient x) = some x ∧
      readCoefficient? ((if x < 0 then ['-'] else []) ++ coefficient x) = some x := by
  have reads := @readCoefficient?_coefficient x (isPositive_unsigned signed)
  have bare := takeSign_coefficient (isPositive_unsigned signed)
  rcases signed with positive | positive
  · rw [unsigned_of_isPositive positive] at reads
    rw [if_pos positive.zero_lt.1, if_neg positive.zero_lt.2]
    exact ⟨@reads _ false rfl, @reads _ false bare⟩
  · rw [unsigned_of_isPositive_neg positive, neg_neg_double] at reads
    rw [if_neg (lt_zero_of_neg positive).2, if_pos (lt_zero_of_neg positive).1]
    exact ⟨@reads _ true rfl, @reads _ true rfl⟩

end Coefficients

/-! ### Reading -/

theorem read?_of_real {cs : List Char} (solid : ∀ c ∈ cs, Text.isWhiteSpace c = false)
    (real : 'i' ∉ cs) : (read? cs : Option (Scalar Float)) = (readFinite? cs).map ofReal := by
  have last : cs.getLast? ≠ some 'i' := fun same => real (List.mem_of_getLast? same)
  unfold read?
  rw [Text.trim_of_none solid]
  exact if_neg last

theorem read?_of_imaginary {body : List Char} (solid : ∀ c ∈ body, Text.isWhiteSpace c = false) :
    (read? (body ++ ['i']) : Option (Scalar Float)) = readImaginary? body := by
  have whole : ∀ c ∈ body ++ ['i'], Text.isWhiteSpace c = false := by
    intro c member
    rcases List.mem_append.mp member with member | member
    · exact solid c member
    · obtain rfl := List.mem_singleton.mp member
      decide
  unfold read?
  rw [Text.trim_of_none whole]
  dsimp only
  rw [if_pos List.getLast?_concat, List.dropLast_concat]

/-- The characters of a part: they are solid, none is an `i` or marks an exponent. -/
theorem floatText_chars {x : Float} (signed : IsSigned x) :
    floatText x ≠ [] ∧ ∀ c ∈ floatText x,
      isExponentMark c = false ∧ c ≠ 'i' ∧ Text.isWhiteSpace c = false := by
  rcases signed with positive | positive
  · obtain ⟨some, plain⟩ := positive.unsigned_floatText
    exact ⟨some, fun c member => (apart_of_isPlain (plain c member)).2⟩
  · obtain ⟨-, plain⟩ := positive.unsigned_floatText
    rw [floatText_of_isPositive_neg positive]
    refine ⟨List.cons_ne_nil _ _, fun c member => ?_⟩
    rcases List.mem_cons.mp member with rfl | member
    · decide
    · exact (apart_of_isPlain (plain c member)).2

/-- The body of an imaginary scalar, in front of its `i`, is solid. -/
theorem coefficient_solid {x : Float} (signed : IsSigned x) :
    ∀ c ∈ coefficient x, isSign c = false ∧ Text.isWhiteSpace c = false := by
  intro c member
  obtain ⟨noSign, -, -, solid⟩ :=
    apart_of_isPlain (isPlain_of_mem_coefficient (isPositive_unsigned signed) member)
  exact ⟨noSign, solid⟩

section Parts

variable {z : Scalar Float}

/-- A real scalar reads back. -/
theorem read?_spell_of_real (finite : z.re.isFinite = true)
    (re : IsSigned z.re) (im : IsZero z.im) : read? z.spell = some (ofReal z.re) := by
  obtain ⟨-, chars⟩ := floatText_chars re
  have text : z.spell = floatText z.re := by
    rw [spell, bne, re.beq_zero, im.beq_zero]
    rfl
  rw [text, read?_of_real (fun c member => (chars c member).2.2)
    (fun member => (chars 'i' member).2.1 rfl), readFinite?_floatText finite]
  rfl

/-- A scalar of two parts reads back. -/
theorem read?_spell_of_both (finite : z.re.isFinite = true)
    (re : IsSigned z.re) (im : IsSigned z.im) : read? z.spell = some z := by
  obtain ⟨some, chars⟩ := floatText_chars re
  have back : Spelled.read? (floatText z.re) = .some z.re := readFinite?_floatText finite
  have text : z.spell = floatText z.re ++
      (if 0 < z.im then '+' else '-') :: coefficient z.im ++ ['i'] := by
    rw [List.append_assoc, spell, bne, re.beq_zero, im.beq_zero]
    rfl
  have signed : isSign (if 0 < z.im then '+' else '-') = true := by split <;> rfl
  have solid : ∀ c ∈ floatText z.re ++ (if 0 < z.im then '+' else '-') :: coefficient z.im,
      Text.isWhiteSpace c = false := by
    intro c member
    rcases List.mem_append.mp member with member | member
    · exact (chars c member).2.2
    · rcases List.mem_cons.mp member with rfl | member
      · split <;> decide
      · exact (coefficient_solid im c member).2
  have inPlace : SignsInPlace ((if 0 < z.im then '+' else '-') :: coefficient z.im) :=
    signsInPlace_of_tail fun c member => (coefficient_solid im c member).1
  rw [text, read?_of_imaginary solid, readImaginary?, cutAtSign_append some signed
    (fun c member => (chars c (List.mem_of_mem_getLast? member)).1) inPlace]
  dsimp only
  rw [(readCoefficient?_signed im).1, back]

/-- A scalar on the imaginary axis reads back. -/
theorem read?_spell_of_imaginary (re : IsZero z.re) (im : IsSigned z.im) :
    read? z.spell = some (⟨0, z.im⟩ : Scalar Float) := by
  have text : z.spell = (if z.im < 0 then ['-'] else []) ++ coefficient z.im ++ ['i'] := by
    rw [spell, bne, re.beq_zero, bne, im.beq_zero]
    rfl
  have solid : ∀ c ∈ (if z.im < 0 then ['-'] else []) ++ coefficient z.im,
      Text.isWhiteSpace c = false := by
    intro c member
    rcases List.mem_append.mp member with member | member
    · split at member
      · obtain rfl := List.mem_singleton.mp member
        decide
      · cases member
    · exact (coefficient_solid im c member).2
  have whole : cutAtSign ((if z.im < 0 then ['-'] else []) ++ coefficient z.im) = none := by
    refine cutAtSign_eq_none_iff.mpr (signsInPlace_of_tail fun c member => ?_)
    split at member
    · exact (coefficient_solid im c member).1
    · exact (coefficient_solid im c (List.mem_of_mem_tail member)).1
  rw [text, read?_of_imaginary solid, readImaginary?, whole, (readCoefficient?_signed im).2]
  rfl

/-- Zero reads back. -/
theorem read?_spell_of_zero (re : IsZero z.re) (im : IsZero z.im) :
    read? z.spell = some (0 : Scalar Float) := by
  rw [spell, bne, re.beq_zero, bne, im.beq_zero]
  rfl

end Parts

/-! ### The round trip -/

/-- A double whose sign is positive if it is zero. -/
def plainZero (x : Float) : Float :=
  if x == 0 then 0 else x

/-- A scalar whose zero parts have positive signs. -/
def plainZeros (z : Scalar Float) : Scalar Float :=
  ⟨plainZero z.re, plainZero z.im⟩

section RoundTrip

variable {x y : Float}

theorem plainZero_of_isZero (zero : IsZero x) : plainZero x = 0 :=
  if_pos zero.beq_zero

theorem plainZero_of_isSigned (signed : IsSigned x) : plainZero x = x :=
  if_neg (by simp [signed.beq_zero])

/-- Only the sign of a zero is lost. -/
theorem plainZero_eq (finite : x.isFinite = true) :
    plainZero x = x ∨ plainZero x = 0 ∧ x = -0 := by
  rcases sign_cases finite with (rfl | rfl) | signed
  · exact .inl rfl
  · exact .inr ⟨rfl, rfl⟩
  · exact .inl (plainZero_of_isSigned signed)

theorem plainZero_beq (finite : x.isFinite = true) : (plainZero x == x) = true := by
  rcases sign_cases finite with (rfl | rfl) | signed
  · rfl
  · rfl
  · rw [plainZero_of_isSigned signed, beq_self_of_isFinite finite]

theorem beq_of_plainZero_eq (finite : x.isFinite = true) (finiteToo : y.isFinite = true)
    (same : plainZero x = plainZero y) : (x == y) = true := by
  have nonzero : ∀ u : Float, IsSigned u → u ≠ 0 := by
    rintro u signed rfl
    cases signed.beq_zero
  rcases sign_cases finite with zero | signed <;>
    rcases sign_cases finiteToo with zeroToo | signedToo
  · rcases zero with rfl | rfl <;> rcases zeroToo with rfl | rfl <;> rfl
  · rw [plainZero_of_isZero zero, plainZero_of_isSigned signedToo] at same
    exact absurd same.symm (nonzero y signedToo)
  · rw [plainZero_of_isSigned signed, plainZero_of_isZero zeroToo] at same
    exact absurd same (nonzero x signed)
  · rw [plainZero_of_isSigned signed, plainZero_of_isSigned signedToo] at same
    rw [same, beq_self_of_isFinite finiteToo]

end RoundTrip

section Scalars

variable {z : Scalar Float}

/-- The text of a scalar does not show the signs of its zero parts. -/
theorem spell_plainZeros (z : Scalar Float) : z.plainZeros.spell = z.spell := by
  have zero : ((0 : Float) == 0) = true := rfl
  cases re : z.re == 0 <;> cases im : z.im == 0 <;>
    simp [spell, plainZeros, plainZero, bne, re, im, zero]

/-- The text of a scalar with finite parts reads back, except for the signs of its zero parts. -/
theorem read?_spell (re : z.re.isFinite = true) (im : z.im.isFinite = true) :
    read? z.spell = some z.plainZeros := by
  rcases sign_cases re with re_zero | re_signed <;> rcases sign_cases im with im_zero | im_signed
  · rw [read?_spell_of_zero re_zero im_zero, plainZeros, plainZero_of_isZero re_zero,
      plainZero_of_isZero im_zero]
    rfl
  · rw [read?_spell_of_imaginary re_zero im_signed, plainZeros, plainZero_of_isZero re_zero,
      plainZero_of_isSigned im_signed]
  · rw [read?_spell_of_real re re_signed im_zero, plainZeros, plainZero_of_isSigned re_signed,
      plainZero_of_isZero im_zero]
    rfl
  · rw [read?_spell_of_both re re_signed im_signed, plainZeros, plainZero_of_isSigned re_signed,
      plainZero_of_isSigned im_signed]

/-- The text of every scalar with finite parts parses back: to a scalar with equal parts, where only
    the sign of a zero part may differ, and with the same text. So different scalars with finite
    parts have different texts. -/
theorem text_parses_back (re : z.re.isFinite = true) (im : z.im.isFinite = true) :
    (∃ w : Scalar Float, ofText z.text = .ok w ∧ (w == z) = true ∧
        (w.re = z.re ∨ w.re = 0 ∧ z.re = -0) ∧ (w.im = z.im ∨ w.im = 0 ∧ z.im = -0) ∧
        w.text = z.text) ∧
      ∀ v : Scalar Float, v.re.isFinite = true → v.im.isFinite = true →
        v.text = z.text → (v == z) = true := by
  have back : ∀ v : Scalar Float, v.re.isFinite = true → v.im.isFinite = true →
      ofText v.text = .ok v.plainZeros := by
    intro v v_re v_im
    rw [ofText, text, String.toList_ofList, read?_spell v_re v_im]
  constructor
  · refine ⟨z.plainZeros, back z re im, ?_, plainZero_eq re, plainZero_eq im, ?_⟩
    · exact Bool.and_eq_true_iff.mpr ⟨plainZero_beq re, plainZero_beq im⟩
    · rw [text, spell_plainZeros, text]
  · intro v v_re v_im same
    have parsed := back v v_re v_im
    rw [same, back z re im] at parsed
    obtain ⟨re_same, im_same⟩ := Scalar.mk.inj (Except.ok.inj parsed)
    exact Bool.and_eq_true_iff.mpr
      ⟨beq_of_plainZero_eq v_re re re_same.symm, beq_of_plainZero_eq v_im im im_same.symm⟩

/-- A scalar with the imaginary coefficient one, which is not written. -/
theorem text_parses_back_unit :
    (Scalar.mk (2.5 : Float) (-1)).text = "2.5-i" ∧
      (2.5 : Float).isFinite = true ∧ (-1 : Float).isFinite = true ∧
      ∃ w : Scalar Float, ofText (Scalar.mk (2.5 : Float) (-1)).text = .ok w ∧
        (w == Scalar.mk 2.5 (-1)) = true ∧ w.text = (Scalar.mk (2.5 : Float) (-1)).text := by
  have re : (2.5 : Float).isFinite = true := rfl
  have im : (-1 : Float).isFinite = true := rfl
  obtain ⟨⟨w, parsed, equal, -, -, same⟩, -⟩ := text_parses_back (z := ⟨2.5, -1⟩) re im
  exact ⟨by decide +kernel, re, im, w, parsed, equal, same⟩

end Scalars

end QuantumAssembler.Scalar
