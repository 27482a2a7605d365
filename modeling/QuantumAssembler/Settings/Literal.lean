import QuantumAssembler.Text.CodePoint

/-!
Module: QuantumAssembler.Settings.Literal
Purpose: The values that settings files hold: whole numbers, truth values and strings. A number is
  decimal, hexadecimal, octal or binary, may have single underscores between its digits, and is
  below two to the sixty-third. A string stands in double quotes, with escapes, or in single
  quotes, without; three quotes on either side let it run over several lines.
Main exports: Item, Item.read?, quotedBody, literalBody, longQuotedBody, longLiteralBody, number?
-/

namespace QuantumAssembler.Settings

/-- A value in a settings file. -/
inductive Item where
  | number (n : Nat)
  | truth (b : Bool)
  | string (s : List Char)
deriving DecidableEq, Repr

/-! ### Characters -/

/-- Blanks inside a line. -/
def isBlank (c : Char) : Bool :=
  c == ' ' || c == '\t'

/-- The characters that may stand as they are in comments and strings: no control characters but the
    tab. -/
def isPlain (c : Char) : Bool :=
  c == '\t' || (0x20 ≤ c.toNat && c.toNat != 0x7F)

/-- Takes off the end of a line: a line feed, with or without a carriage return in front. -/
def lineEnd? : List Char → Option (List Char)
  | '\n' :: rest => some rest
  | '\r' :: '\n' :: rest => some rest
  | _ => none

theorem length_of_lineEnd? {cs rest : List Char} (h : lineEnd? cs = some rest) :
    rest.length < cs.length := by
  unfold lineEnd? at h
  split at h
  · cases h
    exact Nat.lt_succ_self _
  · cases h
    simp only [List.length_cons]
    omega
  · cases h

/-- Passes over blanks and line ends. -/
def skipBlankLines : List Char → List Char
  | '\n' :: rest => skipBlankLines rest
  | '\r' :: '\n' :: rest => skipBlankLines rest
  | c :: rest => if isBlank c then skipBlankLines rest else c :: rest
  | [] => []

theorem length_skipBlankLines_le (cs : List Char) : (skipBlankLines cs).length ≤ cs.length := by
  fun_induction skipBlankLines cs with
  | case1 rest ih => simp only [List.length_cons]; omega
  | case2 rest ih => simp only [List.length_cons]; omega
  | case3 c rest _ _ _ ih => simp only [List.length_cons]; omega
  | case4 => simp
  | case5 => simp

theorem length_dropWhile_le (p : Char → Bool) (cs : List Char) :
    (cs.dropWhile p).length ≤ cs.length :=
  (List.dropWhile_sublist p).length_le

/-! ### Strings -/

/-- The character that an escape of `count` hexadecimal digits writes, and what follows it. -/
def numericEscape? (count : Nat) (cs : List Char) : Option (Char × List Char) :=
  if cs.length < count then none
  else (Text.codePoint? (cs.take count)).map fun c => (c, cs.drop count)

/-- The character that an escape writes, and what follows it; the backslash is already read. -/
def escape? : List Char → Option (Char × List Char)
  | 'b' :: rest => some ('\x08', rest)
  | 't' :: rest => some ('\t', rest)
  | 'n' :: rest => some ('\n', rest)
  | 'f' :: rest => some ('\x0c', rest)
  | 'r' :: rest => some ('\r', rest)
  | '"' :: rest => some ('"', rest)
  | '\\' :: rest => some ('\\', rest)
  | 'u' :: rest => numericEscape? 4 rest
  | 'U' :: rest => numericEscape? 8 rest
  | _ => none

theorem length_of_numericEscape? {count : Nat} {cs rest : List Char} {c : Char}
    (h : numericEscape? count cs = some (c, rest)) : rest.length ≤ cs.length := by
  unfold numericEscape? at h
  split at h
  · cases h
  · obtain ⟨_, _, equation⟩ := Option.map_eq_some_iff.1 h
    cases equation
    simp

theorem length_of_escape? {cs rest : List Char} {c : Char} (h : escape? cs = some (c, rest)) :
    rest.length < cs.length := by
  unfold escape? at h
  split at h
  case h_8 => have := length_of_numericEscape? h; simp only [List.length_cons]; omega
  case h_9 => have := length_of_numericEscape? h; simp only [List.length_cons]; omega
  case h_10 => cases h
  all_goals cases h; simp

/-- Puts a character in front of what was read. -/
def push (c : Char) (found : List Char × List Char) : List Char × List Char :=
  (c :: found.1, found.2)

/-- Reads up to the closing double quote. -/
def quotedBody : List Char → Option (List Char × List Char)
  | [] => none
  | c :: rest =>
    if c = '"' then some ([], rest)
    else if c = '\\' then
      match _found : escape? rest with
      | some (d, after) => (quotedBody after).map (push d)
      | none => none
    else if isPlain c then (quotedBody rest).map (push c)
    else none
termination_by cs => cs.length
decreasing_by
  · have := length_of_escape? ‹_›; simp only [List.length_cons]; omega
  · simp

/-- Reads up to the closing single quote. -/
def literalBody : List Char → Option (List Char × List Char)
  | [] => none
  | c :: rest =>
    if c = '\'' then some ([], rest)
    else if isPlain c then (literalBody rest).map (push c)
    else none

/-- Reads the closing row of quotes, two of which are already read, if it is one. Up to two quotes
    in front of the last three belong to the string. -/
def closing? (quote : Char) : List Char → Option (List Char × List Char)
  | c :: d :: e :: rest =>
    if c = quote ∧ d = quote then
      if e = quote then
        match rest with
        | f :: after => if f = quote then some ([quote, quote], after) else some ([quote], rest)
        | [] => some ([quote], rest)
      else some ([], e :: rest)
    else none
  | [c, d] => if c = quote ∧ d = quote then some ([], []) else none
  | _ => none

/-- Reads up to the three closing double quotes. A backslash at the end of a line takes away the
    line end and all blanks and line ends behind it. -/
def longQuotedBody : List Char → Option (List Char × List Char)
  | [] => none
  | c :: rest =>
    if c = '"' then
      match closing? '"' rest with
      | some found => some found
      | none => (longQuotedBody rest).map (push c)
    else if c = '\\' then
      match _ended : lineEnd? (rest.dropWhile isBlank) with
      | some after => longQuotedBody (skipBlankLines after)
      | none =>
        match _found : escape? rest with
        | some (d, after) => (longQuotedBody after).map (push d)
        | none => none
    else
      match _ended : lineEnd? (c :: rest) with
      | some after => (longQuotedBody after).map (push '\n')
      | none => if isPlain c then (longQuotedBody rest).map (push c) else none
termination_by cs => cs.length
decreasing_by
  · simp
  · have := length_of_lineEnd? ‹_›
    have := length_skipBlankLines_le after
    have := length_dropWhile_le isBlank rest
    simp only [List.length_cons]
    omega
  · have := length_of_escape? ‹_›; simp only [List.length_cons]; omega
  · exact length_of_lineEnd? ‹_›
  · simp

/-- Reads up to the three closing single quotes. -/
def longLiteralBody : List Char → Option (List Char × List Char)
  | [] => none
  | c :: rest =>
    if c = '\'' then
      match closing? '\'' rest with
      | some found => some found
      | none => (longLiteralBody rest).map (push c)
    else
      match _ended : lineEnd? (c :: rest) with
      | some after => (longLiteralBody after).map (push '\n')
      | none => if isPlain c then (longLiteralBody rest).map (push c) else none
termination_by cs => cs.length
decreasing_by
  · simp
  · exact length_of_lineEnd? ‹_›
  · simp

/-- What follows the opening quotes of a long string: a line end directly behind them is no part of
    it. -/
def longStart (cs : List Char) : List Char :=
  (lineEnd? cs).getD cs

/-- Reads a string of any of the four forms. -/
def string? : List Char → Option (List Char × List Char)
  | '"' :: '"' :: '"' :: rest => longQuotedBody (longStart rest)
  | '"' :: rest => quotedBody rest
  | '\'' :: '\'' :: '\'' :: rest => longLiteralBody (longStart rest)
  | '\'' :: rest => literalBody rest
  | _ => none

/-! ### Numbers and truth values -/

/-- Whether a word consists of digits, with single underscores between some of them. -/
def isGrouped (isDigit : Char → Bool) : List Char → Bool
  | [] => false
  | [c] => isDigit c
  | c :: d :: rest =>
    isDigit c && if d = '_' then isGrouped isDigit rest else isGrouped isDigit (d :: rest)

/-- The value of grouped digits in a base. -/
def groupedValue (base : Nat) (word : List Char) : Nat :=
  (word.filterMap Text.hexDigit?).foldl (fun n d => base * n + d) 0

/-- Numbers are below this bound. -/
def numberBound : Nat := Nat.pow 2 63

/-- The value of grouped digits in a base, if it is below the bound. -/
def inBase? (base : Nat) (isDigit : Char → Bool) (word : List Char) : Option Nat :=
  if isGrouped isDigit word ∧ groupedValue base word < numberBound then
    some (groupedValue base word)
  else none

/-- A decimal number without a sign; it has no leading nought. -/
def decimal? : List Char → Option Nat
  | ['0'] => some 0
  | '0' :: _ => none
  | word => inBase? 10 Char.isDigit word

/-- A whole number that is not negative. -/
def number? : List Char → Option Nat
  | '0' :: 'x' :: digits => inBase? 16 (fun c => (Text.hexDigit? c).isSome) digits
  | '0' :: 'o' :: digits => inBase? 8 (fun c => '0' ≤ c && c ≤ '7') digits
  | '0' :: 'b' :: digits => inBase? 2 (fun c => c == '0' || c == '1') digits
  | '+' :: digits => decimal? digits
  | '-' :: digits => if decimal? digits = some 0 then some 0 else none
  | digits => decimal? digits

/-- The value that an unquoted word writes. -/
def word? (word : List Char) : Option Item :=
  if word = "true".toList then some (.truth true)
  else if word = "false".toList then some (.truth false)
  else (number? word).map .number

/-- Whether an unquoted word goes on with this character. -/
def isWordPart (c : Char) : Bool :=
  !(isBlank c || c == '\r' || c == '\n' || c == '#')

/-- Reads a value, and what follows it. -/
def Item.read? (cs : List Char) : Option (Item × List Char) :=
  match cs with
  | '"' :: _ | '\'' :: _ => (string? cs).map fun (s, rest) => (.string s, rest)
  | _ => (word? (cs.takeWhile isWordPart)).map fun item => (item, cs.dropWhile isWordPart)

end QuantumAssembler.Settings
