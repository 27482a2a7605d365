import QuantumAssembler.Settings.Written

/-!
Module: QuantumAssembler.Proofs.Settings.Literal
Purpose: Strings in settings files read back as they were written. Escapes give their character, each
  of the four forms gives a string that fits it, and every string fits the form in which it is
  written. In long forms, quotes in front of the closing ones are found to belong to the string.
Main exports: escaped_cases, closing?_append, quotedBody_escapedBody, longQuotedBody_escapedBody,
  literalBody_append, longLiteralBody_append, StringForm.Fits, StringForm.fits_of, string?_write
-/

namespace QuantumAssembler.Settings

/-! ### Escapes -/

/-- The numeric escape of a control character gives the character. -/
theorem codePoint?_escapeDigits {c : Char} (control : c.toNat < 0x20 ∨ c.toNat = 0x7F) :
    Text.codePoint? ['0', '0', escapeDigit (c.toNat / 16), escapeDigit c.toNat] = some c := by
  have controls : ∀ n < 128, n < 0x20 ∨ n = 0x7F →
      Text.codePoint? ['0', '0', escapeDigit (n / 16), escapeDigit n] = some (Char.ofNat n) := by
    decide +kernel
  rw [controls c.toNat (by omega) control, Char.ofNat_toNat]

theorem numericEscape?_four (a b c d : Char) (rest : List Char) :
    numericEscape? 4 (a :: b :: c :: d :: rest) =
      (Text.codePoint? [a, b, c, d]).map fun found => (found, rest) := by
  have enough : ¬ (a :: b :: c :: d :: rest).length < 4 := by
    simp only [List.length_cons]
    omega
  rw [numericEscape?, if_neg enough]
  rfl

/-- A character is written by an escape that gives it, or as it stands. -/
theorem escaped_cases (long : Bool) (c : Char) :
    (∃ d code, escaped long c = '\\' :: d :: code ∧ isBlank d = false ∧ d ≠ '\n' ∧ d ≠ '\r' ∧
        ∀ rest, escape? (d :: code ++ rest) = some (c, rest)) ∨
      escaped long c = [c] ∧ c ≠ '\\' ∧ (isPlain c = true ∨ long = true ∧ c = '\n') := by
  unfold escaped
  split
  case h_1 => exact .inl ⟨'b', [], rfl, rfl, by decide, by decide, fun _ => rfl⟩
  case h_2 => exact .inl ⟨'t', [], rfl, rfl, by decide, by decide, fun _ => rfl⟩
  case h_3 =>
    cases long with
    | true => exact .inr ⟨rfl, by decide, .inr ⟨rfl, rfl⟩⟩
    | false => exact .inl ⟨'n', [], rfl, rfl, by decide, by decide, fun _ => rfl⟩
  case h_4 => exact .inl ⟨'f', [], rfl, rfl, by decide, by decide, fun _ => rfl⟩
  case h_5 => exact .inl ⟨'r', [], rfl, rfl, by decide, by decide, fun _ => rfl⟩
  case h_6 => exact .inl ⟨'\\', [], rfl, rfl, by decide, by decide, fun _ => rfl⟩
  case h_7 _ _ _ _ _ backslash =>
    by_cases control : c.toNat < 0x20 ∨ c.toNat = 0x7F
    · refine .inl ⟨'u', ['0', '0', escapeDigit (c.toNat / 16), escapeDigit c.toNat],
        if_pos (by simpa using control), rfl, by decide, by decide, fun rest => ?_⟩
      change numericEscape? 4
        ('0' :: '0' :: escapeDigit (c.toNat / 16) :: escapeDigit c.toNat :: rest) = _
      rw [numericEscape?_four, codePoint?_escapeDigits control]
      rfl
    · refine .inr ⟨if_neg (by simpa using control), backslash, .inl ?_⟩
      rw [not_or] at control
      simp only [isPlain, Bool.or_eq_true, Bool.and_eq_true, decide_eq_true_eq, bne_iff_ne]
      exact .inr ⟨by omega, control.2⟩

/-! ### Quotes -/

/-- The first character of what writes a character is not a quote. -/
theorem not_quote_first_escaped (long : Bool) {c : Char} (other : c ≠ '"') (rest : List Char) :
    ¬ ['"'] <+: escaped long c ++ rest := by
  rcases escaped_cases long c with ⟨d, code, escape, -⟩ | ⟨plain, -⟩
  · rw [escape, List.cons_append, List.cons_prefix_cons]
    exact fun starts => absurd starts.1 (by decide)
  · rw [plain, List.cons_append, List.cons_prefix_cons]
    exact fun starts => other starts.1.symm

section Escaped

variable {long : Bool} {allowed quotes : Nat} {s : List Char}

/-- Where no more quotes are allowed, none stands first. -/
theorem not_quote_first (full : allowed ≤ quotes) :
    ¬ ['"'] <+: escapedBody long allowed quotes s := by
  cases s with
  | nil => exact fun starts => absurd (List.prefix_nil.mp starts) (by decide)
  | cons c s =>
      rw [escapedBody]
      by_cases quote : c = '"'
      · rw [if_pos quote, if_neg (Nat.not_lt.mpr full), List.cons_prefix_cons]
        exact fun starts => absurd starts.1 (by decide)
      · rw [if_neg quote]
        exact not_quote_first_escaped long quote _

/-- Where one more is allowed, no two stand first. -/
theorem not_two_quotes_first (nearlyFull : allowed ≤ quotes + 1) :
    ¬ ['"', '"'] <+: escapedBody long allowed quotes s := by
  cases s with
  | nil => exact fun starts => absurd (List.prefix_nil.mp starts) (by decide)
  | cons c s =>
      rw [escapedBody]
      by_cases quote : c = '"'
      · rw [if_pos quote]
        split
        · rw [List.cons_prefix_cons]
          exact fun starts => not_quote_first nearlyFull starts.2
        · rw [List.cons_prefix_cons]
          exact fun starts => absurd starts.1 (by decide)
      · rw [if_neg quote]
        intro starts
        exact not_quote_first_escaped long quote _
          ((List.prefix_append ['"'] ['"']).trans starts)

theorem eq_nil_of_escapedBody (none : escapedBody long allowed quotes s = []) : s = [] := by
  cases s with
  | nil => rfl
  | cons c s =>
      rw [escapedBody] at none
      split at none
      · split at none <;> cases none
      · rcases escaped_cases long c with ⟨d, code, escape, -⟩ | ⟨plain, -⟩
        · rw [escape] at none
          cases none
        · rw [plain] at none
          cases none

/-- A body that is empty or a quote is the string itself. -/
theorem escapedBody_of_short
    (short : escapedBody long allowed quotes s = [] ∨ escapedBody long allowed quotes s = ['"']) :
    escapedBody long allowed quotes s = s := by
  rcases short with none | single
  · rw [none, eq_nil_of_escapedBody none]
  · cases s with
    | nil => cases single
    | cons c s =>
        rw [single]
        rw [escapedBody] at single
        by_cases quote : c = '"'
        · rw [if_pos quote] at single
          split at single
          · rw [quote, eq_nil_of_escapedBody (List.cons.inj single).2]
          · cases single
        · rw [if_neg quote] at single
          exact absurd ⟨[], single.symm⟩ (not_quote_first_escaped long quote _)

end Escaped

/-- Quotes that close a long string are found behind up to two quotes that belong to it. -/
theorem closing?_append {q : Char} (quote : q ≠ '\n') {body : List Char} (few : ¬ [q, q] <+: body)
    (rest : List Char) :
    closing? q (body ++ q :: q :: q :: '\n' :: rest) =
      if body = [] ∨ body = [q] then some (q :: body, '\n' :: rest) else none := by
  match body with
  | [] => simp [closing?, quote.symm]
  | [c] =>
      by_cases same : c = q
      · simp [closing?, same]
      · simp [closing?, same]
  | c :: d :: body =>
      have apart : ¬ (c = q ∧ d = q) := by
        rintro ⟨first, second⟩
        rw [first, second] at few
        exact few (List.prefix_append [q, q] body)
      rw [if_neg (by simp)]
      cases body with
      | nil => exact if_neg apart
      | cons e body => exact if_neg apart

/-! ### Strings on one line -/

/-- An escape is read as the character that it gives. -/
theorem quotedBody_of_escape {cs after : List Char} {c : Char}
    (found : escape? cs = some (c, after)) :
    quotedBody ('\\' :: cs) = (quotedBody after).map (push c) := by
  rw [quotedBody, if_neg (by decide), if_pos rfl]
  split
  · rename_i found'
    cases found.symm.trans found'
    rfl
  · rename_i none
    cases found.symm.trans none

theorem quotedBody_escaped {c : Char} (other : c ≠ '"') (rest : List Char) :
    quotedBody (escaped false c ++ rest) = (quotedBody rest).map (push c) := by
  rcases escaped_cases false c with ⟨d, code, escape, -, -, -, found⟩ | ⟨asIs, backslash, plain⟩
  · rw [escape, List.cons_append, quotedBody_of_escape (found rest)]
  · have plain : isPlain c = true := plain.resolve_right fun long => absurd long.1 (by decide)
    rw [asIs, List.singleton_append, quotedBody, if_neg other, if_neg backslash, if_pos plain]

/-- With all quotes escaped, a string reads back. -/
theorem quotedBody_escapedBody (s rest : List Char) :
    quotedBody (escapedBody false 0 0 s ++ '"' :: rest) = some (s, rest) := by
  induction s with
  | nil => rw [escapedBody, List.nil_append, quotedBody, if_pos rfl]
  | cons c s ih =>
      rw [escapedBody]
      by_cases quote : c = '"'
      · rw [if_pos quote, if_neg (by decide), quote, List.cons_append, List.cons_append,
          quotedBody_of_escape rfl, ih]
        rfl
      · rw [if_neg quote, List.append_assoc, quotedBody_escaped quote, ih]
        rfl

/-- Without single quotes, plain characters read back as they stand. -/
theorem literalBody_append {s : List Char} (plain : ∀ c ∈ s, isPlain c = true ∧ c ≠ '\'')
    (rest : List Char) : literalBody (s ++ '\'' :: rest) = some (s, rest) := by
  induction s with
  | nil => rw [List.nil_append, literalBody, if_pos rfl]
  | cons c s ih =>
      obtain ⟨first, others⟩ := List.forall_mem_cons.mp plain
      rw [List.cons_append, literalBody, if_neg first.2, if_pos first.1, ih others]
      rfl

/-! ### Long strings -/

theorem longQuotedBody_of_escape {d c : Char} {code after : List Char} (blank : isBlank d = false)
    (feed : d ≠ '\n') (carriage : d ≠ '\r') (found : escape? (d :: code) = some (c, after)) :
    longQuotedBody ('\\' :: d :: code) = (longQuotedBody after).map (push c) := by
  have front : (d :: code).dropWhile isBlank = d :: code := by
    rw [List.dropWhile_cons, blank]
    rfl
  have goesOn : lineEnd? ((d :: code).dropWhile isBlank) = none := by
    rw [front]
    unfold lineEnd?
    split
    · rename_i same
      exact absurd (List.cons.inj same).1 feed
    · rename_i same
      exact absurd (List.cons.inj same).1 carriage
    · rfl
  rw [longQuotedBody, if_neg (by decide), if_pos rfl]
  split
  · rename_i ended
    cases goesOn.symm.trans ended
  · split
    · rename_i found'
      cases found.symm.trans found'
      rfl
    · rename_i none
      cases found.symm.trans none

/-- Plain characters do not end a line. -/
theorem lineEnd?_of_isPlain {c : Char} (plain : isPlain c = true) (rest : List Char) :
    lineEnd? (c :: rest) = none := by
  unfold lineEnd?
  split
  · rename_i same
    rw [(List.cons.inj same).1] at plain
    cases plain
  · rename_i same
    rw [(List.cons.inj same).1] at plain
    cases plain
  · rfl

theorem longQuotedBody_escaped {c : Char} (other : c ≠ '"') (rest : List Char) :
    longQuotedBody (escaped true c ++ rest) = (longQuotedBody rest).map (push c) := by
  rcases escaped_cases true c with ⟨d, code, escape, blank, feed, carriage, found⟩ |
    ⟨asIs, backslash, plain⟩
  · rw [escape, List.cons_append, List.cons_append]
    exact longQuotedBody_of_escape blank feed carriage (found rest)
  · rw [asIs, List.singleton_append, longQuotedBody, if_neg other, if_neg backslash]
    rcases plain with plain | ⟨-, rfl⟩
    · split
      · rename_i ended
        cases (lineEnd?_of_isPlain plain rest).symm.trans ended
      · rw [if_pos plain]
    · rfl

/-- A quote in front of a body is read alone, unless the body is so short that the closing quotes are
    found with it. -/
theorem longQuotedBody_quote {body s : List Char} (few : ¬ ['"', '"'] <+: body) (rest : List Char)
    (short : body = [] ∨ body = ['"'] → body = s)
    (read : longQuotedBody (body ++ '"' :: '"' :: '"' :: '\n' :: rest) = some (s, '\n' :: rest)) :
    longQuotedBody ('"' :: body ++ '"' :: '"' :: '"' :: '\n' :: rest) =
      some ('"' :: s, '\n' :: rest) := by
  rw [List.cons_append, longQuotedBody, if_pos rfl, closing?_append (by decide) few]
  by_cases all : body = [] ∨ body = ['"']
  · rw [if_pos all, short all]
  · rw [if_neg all, read]
    rfl

/-- With two quotes in a row at most, the other characters escaped where they have to be, a string
    reads back. -/
theorem longQuotedBody_escapedBody (quotes : Nat) (s rest : List Char) :
    longQuotedBody (escapedBody true 2 quotes s ++ '"' :: '"' :: '"' :: '\n' :: rest) =
      some (s, '\n' :: rest) := by
  induction s generalizing quotes with
  | nil => rw [escapedBody, List.nil_append, longQuotedBody, if_pos rfl]; rfl
  | cons c s ih =>
      rw [escapedBody]
      by_cases quote : c = '"'
      · rw [if_pos quote, quote]
        split
        · have few : ¬ ['"', '"'] <+: escapedBody true 2 (quotes + 1) s :=
            not_two_quotes_first (by omega)
          exact longQuotedBody_quote few rest escapedBody_of_short (ih (quotes + 1))
        · rw [List.cons_append, List.cons_append,
            longQuotedBody_of_escape (c := '"') rfl (by decide) (by decide) rfl, ih]
          rfl
      · rw [if_neg quote, List.append_assoc, longQuotedBody_escaped quote, ih]
        rfl

/-- Three quotes in a row are none in what follows the first character. -/
theorem hasTriple_of_cons {q c : Char} {s : List Char} (none : hasTriple q (c :: s) = false) :
    hasTriple q s = false := by
  match s with
  | [] => rfl
  | [_] => rfl
  | _ :: _ :: _ => exact (Bool.or_eq_false_iff.mp none).2

theorem not_two_first_of_hasTriple {q : Char} {s : List Char} (none : hasTriple q (q :: s) = false) :
    ¬ [q, q] <+: s := by
  rintro ⟨rest, rfl⟩
  simp [hasTriple] at none

/-- Without three single quotes in a row, plain characters and line feeds read back as they stand. -/
theorem longLiteralBody_append {s : List Char} (plain : ∀ c ∈ s, isPlain c = true ∨ c = '\n')
    (triple : hasTriple '\'' s = false) (rest : List Char) :
    longLiteralBody (s ++ '\'' :: '\'' :: '\'' :: '\n' :: rest) = some (s, '\n' :: rest) := by
  induction s with
  | nil => rw [List.nil_append, longLiteralBody, if_pos rfl]; rfl
  | cons c s ih =>
      obtain ⟨first, others⟩ := List.forall_mem_cons.mp plain
      have read := ih others (hasTriple_of_cons triple)
      by_cases quote : c = '\''
      · rw [quote] at triple ⊢
        rw [List.cons_append, longLiteralBody, if_pos rfl,
          closing?_append (by decide) (not_two_first_of_hasTriple triple)]
        by_cases all : s = [] ∨ s = ['\'']
        · rw [if_pos all]
        · rw [if_neg all, read]
          rfl
      · rw [List.cons_append, longLiteralBody, if_neg quote]
        rcases first with first | rfl
        · split
          · rename_i ended
            cases (lineEnd?_of_isPlain first _).symm.trans ended
          · rw [if_pos first, read]
            rfl
        · change (longLiteralBody (s ++ _)).map (push '\n') = _
          rw [read]
          rfl

/-! ### Forms -/

theorem isPlain_of_needsEscape {c : Char} (clean : needsEscape c = false) :
    isPlain c = true ∨ c = '\n' := by
  simp only [needsEscape, Bool.or_eq_false_iff, Bool.and_eq_false_iff, decide_eq_false_iff_not,
    bne_eq_false_iff_eq, beq_eq_false_iff_ne] at clean
  simp only [isPlain, Bool.or_eq_true, Bool.and_eq_true, beq_iff_eq, bne_iff_ne, decide_eq_true_eq]
  obtain ⟨(high | tab) | feed, delete⟩ := clean
  · exact .inl (.inr ⟨by omega, delete⟩)
  · exact .inl (.inl tab)
  · exact .inr feed

/-- The strings that can be written in a form. -/
def StringForm.Fits (s : List Char) : StringForm → Prop
  | quoted => True
  | literal => ∀ c ∈ s, isPlain c = true ∧ c ≠ '\''
  | longQuoted => True
  | longLiteral => (∀ c ∈ s, isPlain c = true ∨ c = '\n') ∧ hasTriple '\'' s = false

/-- Every string can be written in the form in which it is written. -/
theorem StringForm.fits_of (s : List Char) : (StringForm.of s).Fits s := by
  unfold StringForm.of
  dsimp only
  split
  · trivial
  · split
    · rename_i asIs
      simp only [Bool.and_eq_true, Bool.not_eq_true', List.any_eq_false, List.contains_eq_mem,
        decide_eq_false_iff_not] at asIs
      obtain ⟨⟨clean, oneLine⟩, single⟩ := asIs
      intro c member
      refine ⟨(isPlain_of_needsEscape (Bool.not_eq_true _ ▸ clean c member)).resolve_right ?_, ?_⟩
      · rintro rfl
        exact oneLine member
      · rintro rfl
        exact single member
    · split
      · trivial
      · split
        · rename_i asIs
          simp only [Bool.and_eq_true, Bool.not_eq_true', List.any_eq_false] at asIs
          obtain ⟨clean, triple⟩ := asIs
          exact ⟨fun c member => isPlain_of_needsEscape (Bool.not_eq_true _ ▸ clean c member), triple⟩
        · split <;> trivial

/-- One quote opens a string on one line, unless two more follow. -/
theorem string?_quoted {cs : List Char} (apart : ¬ ['"', '"'] <+: cs) :
    string? ('"' :: cs) = quotedBody cs := by
  rw [string?]
  rintro rest rfl
  exact apart (List.prefix_append ['"', '"'] rest)

theorem string?_literal {cs : List Char} (apart : ¬ ['\'', '\''] <+: cs) :
    string? ('\'' :: cs) = literalBody cs := by
  rw [string?]
  rintro rest rfl
  exact apart (List.prefix_append ['\'', '\''] rest)

/-- The first two characters of a closed body are not both quotes if its first is not one. -/
theorem not_two_first_of_not_first {q : Char} (quote : q ≠ '\n') {body : List Char}
    (none : ¬ [q] <+: body) (rest : List Char) : ¬ [q, q] <+: body ++ q :: '\n' :: rest := by
  cases body with
  | nil => simp [quote]
  | cons c body =>
      intro starts
      exact none (List.cons_prefix_cons.mpr ⟨(List.cons_prefix_cons.mp starts).1, List.nil_prefix⟩)

/-- What opens a long string passes over the line feed that is put in front of strings with line
    feeds, and over nothing else. -/
theorem longStart_append {s body : List Char} (rest : List Char)
    (first : '\n' ∉ s → lineEnd? (body ++ rest) = none) :
    longStart ((if s.contains '\n' then ['\n'] else []) ++ body ++ rest) = body ++ rest := by
  split
  · rfl
  · rename_i oneLine
    rw [List.nil_append, longStart, first (by simpa using oneLine)]
    rfl

theorem lineEnd?_escapedBody {s : List Char} (oneLine : '\n' ∉ s) (rest : List Char) :
    lineEnd? (escapedBody true 2 0 s ++ '"' :: rest) = none := by
  cases s with
  | nil => rfl
  | cons c s =>
      rw [escapedBody]
      by_cases quote : c = '"'
      · rw [if_pos quote]
        rfl
      · rw [if_neg quote]
        rcases escaped_cases true c with ⟨d, code, escape, -⟩ | ⟨asIs, -, plain⟩
        · rw [escape]
          rfl
        · rw [asIs]
          refine lineEnd?_of_isPlain (plain.resolve_right ?_) _
          rintro ⟨-, rfl⟩
          exact oneLine List.mem_cons_self

/-- Every string that fits a form reads back from it. -/
theorem string?_write {form : StringForm} {s : List Char} (fits : form.Fits s) (rest : List Char) :
    string? (form.write s ++ '\n' :: rest) = some (s, '\n' :: rest) := by
  cases form with
  | quoted =>
      have shape : StringForm.quoted.write s ++ '\n' :: rest =
          '"' :: (escapedBody false 0 0 s ++ '"' :: '\n' :: rest) := by
        simp [StringForm.write, StringForm.delimiter, StringForm.body]
      rw [shape, string?_quoted, quotedBody_escapedBody]
      exact not_two_first_of_not_first (by decide) (not_quote_first (Nat.le_refl 0)) rest
  | literal =>
      have shape : StringForm.literal.write s ++ '\n' :: rest =
          '\'' :: (s ++ '\'' :: '\n' :: rest) := by
        simp [StringForm.write, StringForm.delimiter, StringForm.body]
      rw [shape, string?_literal, literalBody_append fits]
      refine not_two_first_of_not_first (by decide) ?_ rest
      intro starts
      exact (fits '\'' (starts.subset List.mem_cons_self)).2 rfl
  | longQuoted =>
      have shape : StringForm.longQuoted.write s ++ '\n' :: rest =
          '"' :: '"' :: '"' :: ((if s.contains '\n' then ['\n'] else []) ++
            escapedBody true 2 0 s ++ '"' :: '"' :: '"' :: '\n' :: rest) := by
        simp [StringForm.write, StringForm.delimiter, StringForm.body]
      rw [shape, string?, longStart_append _ fun oneLine => lineEnd?_escapedBody oneLine _,
        longQuotedBody_escapedBody]
  | longLiteral =>
      obtain ⟨plain, triple⟩ := fits
      have shape : StringForm.longLiteral.write s ++ '\n' :: rest =
          '\'' :: '\'' :: '\'' :: ((if s.contains '\n' then ['\n'] else []) ++ s ++
            '\'' :: '\'' :: '\'' :: '\n' :: rest) := by
        simp [StringForm.write, StringForm.delimiter, StringForm.body]
      have first (oneLine : '\n' ∉ s) :
          lineEnd? (s ++ '\'' :: '\'' :: '\'' :: '\n' :: rest) = none := by
        cases s with
        | nil => rfl
        | cons c s =>
            refine lineEnd?_of_isPlain ((plain c List.mem_cons_self).resolve_right ?_) _
            rintro rfl
            exact oneLine List.mem_cons_self
      rw [shape, string?, longStart_append _ first, longLiteralBody_append plain triple]

end QuantumAssembler.Settings
