import Mathlib.Data.List.Chain
import QuantumAssembler.Proofs.Scalar.RoundTrip

/-!
Module: QuantumAssembler.Proofs.Scalar.Grammar
Purpose: The grammar of scalars. A scalar is spelled as a literal, as a coefficient with the
  imaginary unit behind it, or as both. Reading accepts exactly these spellings and gives what they
  mean, and no text has two of them. All that this rests on is where a literal may have signs and
  what it may end with, so a reader of literals is lawful if it accepts none that is empty, has a
  sign out of place, or ends like something unfinished.
Main exports: IsLiteral, LawfulSpelled, Spelling, Spelling.Means, Spelling.ofChars,
  read?_eq_some_iff, ofText_accepts_grammar
-/

namespace QuantumAssembler

universe u

/-! ### The parts of a decimal literal -/

namespace Decimal.Literal

/-- An exponent is absent, or a mark with digits behind it, and a sign may stand between. -/
theorem exists_of_exponent?_eq_some {cs : List Char} {exponent : Int}
    (accepted : exponent? cs = some exponent) :
    cs = [] ∨ ∃ mark rest, cs = mark :: rest ∧ (mark = 'e' ∨ mark = 'E') ∧
      (takeSign rest).2 ≠ [] ∧ ∀ c ∈ (takeSign rest).2, c.isDigit = true := by
  cases cs with
  | nil => exact .inl rfl
  | cons mark rest =>
      rw [exponent?] at accepted
      split at accepted
      · rename_i marked
        dsimp only at accepted
        split at accepted
        · rename_i digits
          exact .inr ⟨mark, rest, rfl, marked, digits.1, List.all_eq_true.mp digits.2⟩
        · cases accepted
      · cases accepted

/-- A literal is digits around a decimal point, with an exponent behind them; a sign may stand in
    front. -/
theorem exists_of_ofChars?_eq_some {cs : List Char} {l : Literal}
    (accepted : ofChars? cs = some l) :
    ∃ plain exponent, (takeSign cs).2 = plain ++ exponent ∧ Unsigned plain ∧
      exponent? exponent = some l.exponent := by
  unfold ofChars? at accepted
  dsimp only at accepted
  generalize (takeSign cs).2 = body at accepted ⊢
  have digits : ∀ text : List Char, ∀ c ∈ text.takeWhile Char.isDigit, IsPlain c :=
    fun text c member => .inl (List.mem_takeWhile_imp member)
  have parts : ∀ text : List Char,
      text = text.takeWhile Char.isDigit ++ text.dropWhile Char.isDigit :=
    fun text => List.takeWhile_append_dropWhile.symm
  -- Is there a decimal point?
  split at accepted
  · rename_i rest point
    split at accepted
    · cases accepted
    · obtain ⟨value, read, rfl⟩ := Option.map_eq_some_iff.mp accepted
      refine ⟨body.takeWhile Char.isDigit ++ '.' :: rest.takeWhile Char.isDigit,
        rest.dropWhile Char.isDigit, ?_, ⟨by simp, ?_⟩, read⟩
      · rw [List.append_assoc, List.cons_append, ← parts rest, ← point, ← parts body]
      · intro c member
        rcases List.mem_append.mp member with member | member
        · exact digits body c member
        · rcases List.mem_cons.mp member with rfl | member
          · exact .inr rfl
          · exact digits rest c member
  · split at accepted
    · cases accepted
    · rename_i some
      obtain ⟨value, read, rfl⟩ := Option.map_eq_some_iff.mp accepted
      exact ⟨_, _, parts body, ⟨fun none => some ⟨none, rfl⟩, digits body⟩, read⟩

end Decimal.Literal

namespace Scalar

/-! ### Literals -/

/-- What the reading of scalars relies on in a literal. -/
structure IsLiteral (cs : List Char) : Prop where
  some : cs ≠ []
  inPlace : SignsInPlace cs
  ending : ∀ c ∈ cs.getLast?, isSign c = false ∧ isExponentMark c = false ∧ c ≠ 'i'

/-- Parts whose reader accepts literals only. -/
class LawfulSpelled (α : Type u) [Spelled α] : Prop where
  isLiteral {cs : List Char} {x : α} : Spelled.read? cs = some x → IsLiteral cs

theorem exists_takeSign (cs : List Char) :
    ∃ sign, cs = sign ++ (Decimal.Literal.takeSign cs).2 ∧ sign.length ≤ 1 := by
  rcases @takeSign_eq cs _ _ rfl with ⟨whole, -⟩ | ⟨whole, -⟩ | ⟨whole, -⟩
  · exact ⟨[], whole, Nat.zero_le 1⟩
  · exact ⟨['-'], whole, le_rfl⟩
  · exact ⟨['+'], whole, le_rfl⟩

theorem signsInPlace_append {sign body : List Char} (short : sign.length ≤ 1)
    (noSign : ∀ c ∈ body, isSign c = false) : SignsInPlace (sign ++ body) := by
  apply signsInPlace_of_tail
  intro c member
  match sign, short with
  | [], _ => exact noSign c (List.mem_of_mem_tail member)
  | [_], _ => exact noSign c member

/-- A text that ends with digits or a decimal point can end a literal. -/
theorem ending_append {row : List Char} (unsigned : Decimal.Unsigned row) (front : List Char) :
    ∀ c ∈ (front ++ row).getLast?, isSign c = false ∧ isExponentMark c = false ∧ c ≠ 'i' := by
  intro c last
  rw [List.getLast?_append_of_ne_nil front unsigned.1] at last
  obtain ⟨noSign, noMark, noUnit, -⟩ :=
    apart_of_isPlain (unsigned.2 c (List.mem_of_mem_getLast? last))
  exact ⟨noSign, noMark, noUnit⟩

/-- Decimal literals have signs only first and behind the exponent mark, and they end with a digit
    or a decimal point. -/
theorem isLiteral_of_ofChars? {cs : List Char} {l : Decimal.Literal}
    (accepted : Decimal.Literal.ofChars? cs = some l) : IsLiteral cs := by
  obtain ⟨plain, exponent, body, unsigned, read⟩ :=
    Decimal.Literal.exists_of_ofChars?_eq_some accepted
  obtain ⟨sign, whole, short⟩ := exists_takeSign cs
  rw [body] at whole
  have noSign : ∀ c ∈ plain, isSign c = false := fun c member =>
    (apart_of_isPlain (unsigned.2 c member)).1
  rcases Decimal.Literal.exists_of_exponent?_eq_some read with
    rfl | ⟨mark, rest, rfl, marked, some, digits⟩
  · rw [List.append_nil] at whole
    rw [whole]
    exact ⟨List.append_ne_nil_of_right_ne_nil _ unsigned.1, signsInPlace_append short noSign,
      ending_append unsigned sign⟩
  · have isMark : isSign mark = false ∧ isExponentMark mark = true := by
      rcases marked with rfl | rfl <;> decide
    have row : Decimal.Unsigned (Decimal.Literal.takeSign rest).2 :=
      ⟨some, fun c member => .inl (digits c member)⟩
    obtain ⟨second, behind, shortToo⟩ := exists_takeSign rest
    have front : SignsInPlace (sign ++ (plain ++ [mark])) := by
      refine signsInPlace_append short fun c member => ?_
      rcases List.mem_append.mp member with member | member
      · exact noSign c member
      · rw [List.mem_singleton.mp member]
        exact isMark.1
    have back : SignsInPlace rest := by
      rw [behind]
      exact signsInPlace_append shortToo fun c member => (apart_of_isPlain (row.2 c member)).1
    have parts : cs = (sign ++ (plain ++ [mark])) ++ rest := by
      rw [whole]
      simp
    refine ⟨?_, ?_, ?_⟩
    · rw [parts]
      simp
    · rw [parts]
      refine List.isChain_append.mpr ⟨front, back, fun c last d first signed => ?_⟩
      obtain rfl : mark = c := by simpa using last
      exact isMark.2
    · rw [parts, behind, ← List.append_assoc]
      exact ending_append row _

instance : LawfulSpelled Float where
  isLiteral {cs x} accepted := by
    change Decimal.readFinite? cs = some x at accepted
    unfold Decimal.readFinite? at accepted
    split at accepted
    · rename_i l literal
      exact isLiteral_of_ofChars? literal
    · cases accepted

/-! ### Spellings -/

/-- The spellings of a scalar: a literal, a coefficient in front of the imaginary unit, or both. -/
inductive Spelling where
  | real (literal : List Char)
  | imaginary (coefficient : List Char)
  | both (literal coefficient : List Char)
deriving DecidableEq, Repr

namespace Spelling

/-- The text of a spelling. -/
def text : Spelling → List Char
  | real literal => literal
  | imaginary coefficient => coefficient ++ ['i']
  | both literal coefficient => literal ++ coefficient ++ ['i']

/-- The spelling that a text in front of a final `i` is taken for. -/
def ofBody (body : List Char) : Spelling :=
  match cutAtSign body with
  | some (literal, coefficient) => both literal coefficient
  | none => imaginary body

/-- The spelling that a text is taken for. -/
def ofChars (cs : List Char) : Spelling :=
  if cs.getLast? = some 'i' then ofBody cs.dropLast else real cs

theorem text_ofBody (body : List Char) : (ofBody body).text = body ++ ['i'] := by
  unfold ofBody
  split
  · rename_i literal coefficient cut
    rw [text, (exists_of_cutAtSign_eq_some cut).1]
  · rfl

theorem text_ofChars (cs : List Char) : (ofChars cs).text = cs := by
  unfold ofChars
  split
  · rename_i unit
    rw [text_ofBody, List.dropLast_append_getLast? 'i' unit]
  · rfl

theorem ofChars_concat (body : List Char) : ofChars (body ++ ['i']) = ofBody body := by
  rw [ofChars, if_pos List.getLast?_concat, List.dropLast_concat]

end Spelling

section Coefficients

variable {α : Type u} [One α] [Neg α] [Spelled α]

/-- The value of a coefficient: one is not written. -/
inductive CoefficientMeans : List Char → α → Prop where
  | none : CoefficientMeans [] 1
  | plus : CoefficientMeans ['+'] 1
  | minus : CoefficientMeans ['-'] (-1)
  | literal {cs : List Char} {x : α} : Spelled.read? cs = some x → CoefficientMeans cs x

variable [LawfulSpelled α]

theorem readCoefficient?_eq_some_iff {cs : List Char} {y : α} :
    readCoefficient? cs = some y ↔ CoefficientMeans cs y := by
  have refused : ∀ {cs : List Char} {x : α}, Spelled.read? cs = some x → cs ≠ [] ∧
      cs ≠ ['+'] ∧ cs ≠ ['-'] := by
    intro cs x accepted
    have literal := LawfulSpelled.isLiteral accepted
    refine ⟨literal.some, ?_, ?_⟩ <;> rintro rfl
    · cases (literal.ending '+' rfl).1
    · cases (literal.ending '-' rfl).1
  constructor
  · intro read
    unfold readCoefficient? at read
    split at read
    · cases read
      exact .none
    · cases read
      exact .plus
    · cases read
      exact .minus
    · exact .literal read
  · intro means
    cases means with
    | none => rfl
    | plus => rfl
    | minus => rfl
    | literal accepted =>
        obtain ⟨some, plus, minus⟩ := refused accepted
        rw [readCoefficient?.eq_4 _ some plus minus, accepted]

/-- A coefficient has its signs in place. -/
theorem CoefficientMeans.inPlace {cs : List Char} {y : α} (means : CoefficientMeans cs y) :
    SignsInPlace cs := by
  cases means with
  | none => exact .nil
  | plus => exact .singleton '+'
  | minus => exact .singleton '-'
  | literal accepted => exact (LawfulSpelled.isLiteral accepted).inPlace

end Coefficients

section Meaning

variable {α : Type u} [Zero α] [One α] [Neg α] [Spelled α]

/-- What a spelling means. Behind a literal, the coefficient begins with a sign. -/
inductive Spelling.Means : Spelling → Scalar α → Prop where
  | real {literal : List Char} {x : α} : Spelled.read? literal = some x →
      Means (.real literal) ⟨x, 0⟩
  | imaginary {coefficient : List Char} {y : α} : CoefficientMeans coefficient y →
      Means (.imaginary coefficient) ⟨0, y⟩
  | both {literal coefficient : List Char} {x y : α} : Spelled.read? literal = some x →
      CoefficientMeans coefficient y → (∃ sign ∈ coefficient.head?, isSign sign = true) →
      Means (.both literal coefficient) ⟨x, y⟩

variable [LawfulSpelled α]

namespace Spelling

/-- A text is taken for every spelling of it that has a meaning. -/
theorem Means.ofChars_text {p : Spelling} {z : Scalar α} (means : p.Means z) :
    ofChars p.text = p := by
  cases means with
  | @real literal x accepted =>
      have ending := (LawfulSpelled.isLiteral accepted).ending
      exact if_neg fun unit => (ending 'i' unit).2.2 rfl
  | @imaginary coefficient y means =>
      rw [text, ofChars_concat, ofBody, cutAtSign_eq_none_iff.mpr means.inPlace]
  | @both literal coefficient x y accepted means signed =>
      have front := LawfulSpelled.isLiteral accepted
      obtain ⟨sign, first, signed⟩ := signed
      obtain ⟨back, rfl⟩ := List.head?_eq_some_iff.mp first
      rw [text, ofChars_concat, ofBody, cutAtSign_append front.some signed
        (fun c last => (front.ending c last).2.1) means.inPlace]

end Spelling

theorem readImaginary?_eq_some_iff {body : List Char} {z : Scalar α} :
    readImaginary? body = some z ↔ (Spelling.ofBody body).Means z := by
  unfold readImaginary? Spelling.ofBody
  cases cut : cutAtSign body with
  | none =>
      dsimp only
      constructor
      · intro read
        obtain ⟨y, imaginary, rfl⟩ := Option.map_eq_some_iff.mp read
        exact .imaginary (readCoefficient?_eq_some_iff.mp imaginary)
      · rintro (_ | means | _)
        rw [readCoefficient?_eq_some_iff.mpr means]
        rfl
  | some parts =>
      obtain ⟨literal, coefficient⟩ := parts
      dsimp only
      constructor
      · intro read
        split at read
        · rename_i y x imaginary real
          cases read
          exact .both real (readCoefficient?_eq_some_iff.mp imaginary)
            (exists_of_cutAtSign_eq_some cut).2
        · cases read
      · rintro (_ | _ | ⟨real, means, -⟩)
        rw [readCoefficient?_eq_some_iff.mpr means, real]

/-- Reading takes a text for one spelling and gives what the spelling means. -/
theorem read?_eq_some_iff_ofChars {cs : List Char} {z : Scalar α} :
    read? cs = some z ↔ (Spelling.ofChars (Text.trim cs)).Means z := by
  unfold read? Spelling.ofChars
  dsimp only
  split
  · exact readImaginary?_eq_some_iff
  · constructor
    · intro read
      obtain ⟨x, real, rfl⟩ := Option.map_eq_some_iff.mp read
      exact .real real
    · rintro (real | _ | _)
      rw [real]
      rfl

/-- Reading accepts exactly the texts with a meaningful spelling, and gives its meaning. -/
theorem read?_eq_some_iff {cs : List Char} {z : Scalar α} :
    read? cs = some z ↔ ∃ p : Spelling, p.text = Text.trim cs ∧ p.Means z := by
  rw [read?_eq_some_iff_ofChars]
  constructor
  · intro means
    exact ⟨_, Spelling.text_ofChars _, means⟩
  · rintro ⟨p, same, means⟩
    rwa [← same, means.ofChars_text]

/-- A spelling has one meaning at most. -/
theorem Spelling.Means.functional {p : Spelling} {z w : Scalar α} (means : p.Means z)
    (meansToo : p.Means w) : z = w := by
  have coefficients : ∀ {cs : List Char} {x y : α}, CoefficientMeans cs x →
      CoefficientMeans cs y → x = y := fun one other =>
    Option.some.inj ((readCoefficient?_eq_some_iff.mpr one).symm.trans
      (readCoefficient?_eq_some_iff.mpr other))
  cases means with
  | real accepted =>
      obtain ⟨acceptedToo⟩ := meansToo
      rw [Option.some.inj (accepted.symm.trans acceptedToo)]
  | imaginary coefficient =>
      obtain _ | ⟨coefficientToo⟩ := meansToo
      rw [coefficients coefficient coefficientToo]
  | both accepted coefficient _ =>
      obtain _ | _ | ⟨acceptedToo, coefficientToo, -⟩ := meansToo
      rw [Option.some.inj (accepted.symm.trans acceptedToo),
        coefficients coefficient coefficientToo]

/-- No text has two meaningful spellings. -/
theorem Spelling.Means.unique {p q : Spelling} {z w : Scalar α} (means : p.Means z)
    (meansToo : q.Means w) (same : p.text = q.text) : p = q ∧ z = w := by
  obtain rfl : p = q := by rw [← means.ofChars_text, same, meansToo.ofChars_text]
  exact ⟨rfl, means.functional meansToo⟩

end Meaning

/-! ### Texts of complex numbers -/

/-- A text parses to a scalar exactly if, trimmed, it is a spelling of the scalar. No text has two
    spellings, and a text that has none is refused by a report that quotes it. -/
theorem ofText_accepts_grammar (spelling : String) :
    (∀ z : Scalar Float, ofText spelling = .ok z ↔
        ∃ p : Spelling, p.text = Text.trim spelling.toList ∧ p.Means z) ∧
      (∀ (p q : Spelling) (z w : Scalar Float), p.text = Text.trim spelling.toList →
        q.text = Text.trim spelling.toList → p.Means z → q.Means w → p = q ∧ z = w) ∧
      ((¬ ∃ (p : Spelling) (z : Scalar Float), p.text = Text.trim spelling.toList ∧ p.Means z) →
        (ofText spelling : Except AlgebraFailure (Scalar Float)) =
          .error (.invalidOperand (.notAScalar spelling))) := by
  have reads : ∀ z : Scalar Float, ofText spelling = .ok z ↔ read? spelling.toList = some z := by
    intro z
    unfold ofText
    cases (read? spelling.toList : Option (Scalar Float)) <;> simp
  refine ⟨fun z => (reads z).trans read?_eq_some_iff, ?_, fun none => ?_⟩
  · intro p q z w text textToo means meansToo
    exact means.unique meansToo (text.trans textToo.symm)
  · have refused : (read? spelling.toList : Option (Scalar Float)) = .none := by
      refine Option.eq_none_iff_forall_ne_some.mpr fun z read => none ?_
      obtain ⟨p, text, means⟩ := read?_eq_some_iff.mp read
      exact ⟨p, z, text, means⟩
    rw [ofText, refused]

/-- Two exponents with signs: the text is cut at the sign of the coefficient. -/
theorem ofText_accepts_exponents :
    (ofText " 1e-1-25E+2i" : Except AlgebraFailure (Scalar Float)) = .ok ⟨0.1, -2500⟩ := by
  have real : Spelled.read? "1e-1".toList = some (0.1 : Float) := by decide +kernel
  have imaginary : Spelled.read? "-25E+2".toList = some (-2500 : Float) := by decide +kernel
  exact ((ofText_accepts_grammar " 1e-1-25E+2i").1 _).mpr
    ⟨.both "1e-1".toList "-25E+2".toList, by decide,
      .both real (.literal imaginary) ⟨'-', rfl, rfl⟩⟩

end Scalar

end QuantumAssembler
