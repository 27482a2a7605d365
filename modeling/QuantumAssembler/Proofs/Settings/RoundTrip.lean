import QuantumAssembler.Proofs.Settings.Literal

/-!
Module: QuantumAssembler.Proofs.Settings.RoundTrip
Purpose: Settings read back as they were written. Each written line sets its key to the value that
  it was written for, so what is written of settings is read as these settings. In every format that
  reads back what it writes, saved settings are loaded again unless they have no side, and whatever
  is loaded has one.
Main exports: number?_toDigits, Writes, line?_lineOf, entries?_lineOf, readsBack_lineFormat,
  load_text, one_le_side_of_load
-/

namespace QuantumAssembler.Settings

/-! ### Numbers -/

theorem filterMap_hexDigit? {word : List Char} (digits : ∀ c ∈ word, c.isDigit = true) :
    word.filterMap Text.hexDigit? = word.map fun c => c.toNat - '0'.toNat := by
  induction word with
  | nil => rfl
  | cons c word ih =>
      obtain ⟨first, others⟩ := List.forall_mem_cons.mp digits
      have digit : Text.hexDigit? c = some (c.toNat - '0'.toNat) := if_pos first
      rw [List.filterMap_cons_some digit, List.map_cons, ih others]

theorem isGrouped_of_digits {word : List Char} (some : word ≠ [])
    (digits : ∀ c ∈ word, c.isDigit = true) : isGrouped Char.isDigit word = true := by
  induction word with
  | nil => exact absurd rfl some
  | cons c word ih =>
      obtain ⟨first, others⟩ := List.forall_mem_cons.mp digits
      cases word with
      | nil => exact first
      | cons d word =>
          have noBar : d ≠ '_' := by
            rintro rfl
            exact absurd (others '_' List.mem_cons_self) (by decide)
          rw [isGrouped, first, if_neg noBar, ih (List.cons_ne_nil d word) others]
          rfl

section Digits

variable {n : Nat}

theorem isDigit_of_mem {c : Char} (member : c ∈ Nat.toDigits 10 n) : c.isDigit = true :=
  Nat.isDigit_of_mem_toDigits (by decide) (by decide) member

theorem groupedValue_toDigits : groupedValue 10 (Nat.toDigits 10 n) = n := by
  rw [groupedValue, filterMap_hexDigit? fun _ => isDigit_of_mem, List.foldl_map]
  exact Nat.ofDigitChars_ten_toDigits

/-- Only nought is written with a leading nought. -/
theorem toDigits_ne_nought_cons (pos : 0 < n) (rest : List Char) :
    Nat.toDigits 10 n ≠ '0' :: rest := by
  induction n using Nat.strongRecOn generalizing rest with
  | ind n ih =>
      intro nought
      by_cases small : n < 10
      · rw [Nat.toDigits_of_lt_base small] at nought
        have := Nat.digitChar_eq_zero.mp (List.cons.inj nought).1
        omega
      · rw [Nat.toDigits_of_base_le (by decide) (by omega)] at nought
        cases front : Nat.toDigits 10 (n / 10) with
        | nil => exact Nat.toDigits_ne_nil front
        | cons c cs =>
            rw [front] at nought
            rw [(List.cons.inj nought).1] at front
            exact ih (n / 10) (by omega) (by omega) cs front

/-- Numbers that files can hold read back. -/
theorem number?_toDigits (bound : n < numberBound) : number? (Nat.toDigits 10 n) = some n := by
  have noLetter {c : Char} (letter : c.isDigit = false) (front rest : List Char) :
      Nat.toDigits 10 n ≠ front ++ c :: rest := by
    intro same
    have member : c ∈ Nat.toDigits 10 n := by
      rw [same]
      exact List.mem_append_right front List.mem_cons_self
    cases letter.symm.trans (isDigit_of_mem member)
  have unsigned : number? (Nat.toDigits 10 n) = decimal? (Nat.toDigits 10 n) := by
    rw [number?]
    · exact fun rest => noLetter (c := 'x') rfl ['0'] rest
    · exact fun rest => noLetter (c := 'o') rfl ['0'] rest
    · exact fun rest => noLetter (c := 'b') rfl ['0'] rest
    · exact fun rest => noLetter (c := '+') rfl [] rest
    · exact fun rest => noLetter (c := '-') rfl [] rest
  rw [unsigned]
  rcases Nat.eq_zero_or_pos n with rfl | pos
  · rfl
  · rw [decimal?]
    · rw [inBase?, groupedValue_toDigits,
        if_pos ⟨isGrouped_of_digits Nat.toDigits_ne_nil fun _ => isDigit_of_mem, bound⟩]
    · exact toDigits_ne_nought_cons pos []
    · exact toDigits_ne_nought_cons pos

end Digits

/-! ### Values -/

/-- Whether a value on the right of an equals sign is read as an item, up to the end of the line. -/
def Writes (value : List Char) (item : Item) : Prop :=
  ∀ rest, Item.read? (skipBlanks (' ' :: value ++ '\n' :: rest)) = some (item, '\n' :: rest)

theorem skipBlanks_cons {c : Char} (blank : isBlank c = false) (rest : List Char) :
    skipBlanks (c :: rest) = c :: rest := by
  rw [skipBlanks, List.dropWhile_cons, blank]
  rfl

/-- A row of characters of a kind ends in front of a character of another kind. -/
theorem takeWhile_stop {p : Char → Bool} {word : List Char} (kind : ∀ c ∈ word, p c = true)
    {d : Char} (stop : p d = false) (rest : List Char) :
    (word ++ d :: rest).takeWhile p = word ∧ (word ++ d :: rest).dropWhile p = d :: rest := by
  rw [List.takeWhile_append_of_pos kind, List.dropWhile_append_of_pos kind]
  simp [stop]

/-- The characters of values without quotes. -/
def isBare (c : Char) : Bool :=
  isWordPart c && c != '"' && c != '\''

theorem isBare_of_isDigit {c : Char} (digit : c.isDigit = true) : isBare c = true := by
  have other {d : Char} (letter : d.isDigit = false) : c ≠ d := by
    rintro rfl
    cases letter.symm.trans digit
  simp [isBare, isWordPart, isBlank, other (d := ' ') rfl, other (d := '\t') rfl,
    other (d := '\r') rfl, other (d := '\n') rfl, other (d := '#') rfl, other (d := '"') rfl,
    other (d := '\'') rfl]

theorem writes_word {word : List Char} {item : Item} (some : word ≠ [])
    (bare : ∀ c ∈ word, isBare c = true) (found : word? word = .some item) : Writes word item := by
  simp only [isBare, Bool.and_eq_true, bne_iff_ne] at bare
  intro rest
  obtain ⟨front, back⟩ :=
    takeWhile_stop (p := isWordPart) (fun c member => (bare c member).1.1) (d := '\n') rfl rest
  cases word with
  | nil => exact absurd rfl some
  | cons c word =>
      obtain ⟨⟨part, double⟩, single⟩ := bare c List.mem_cons_self
      have blank : isBlank c = false := by
        cases blank : isBlank c with
        | false => rfl
        | true =>
            rw [isWordPart, blank] at part
            cases part
      have skipped : skipBlanks (' ' :: (c :: word) ++ '\n' :: rest) = c :: word ++ '\n' :: rest :=
        skipBlanks_cons blank _
      rw [skipped, Item.read?]
      · rw [front, found, back]
        rfl
      · intro _ same
        exact double (List.cons.inj same).1
      · intro _ same
        exact single (List.cons.inj same).1

theorem writes_number {n : Nat} (bound : n < numberBound) :
    Writes (Nat.toDigits 10 n) (.number n) := by
  apply writes_word Nat.toDigits_ne_nil fun _ member => isBare_of_isDigit (isDigit_of_mem member)
  have noWord (word : List Char) (letter : ∃ c ∈ word, c.isDigit = false) :
      Nat.toDigits 10 n ≠ word := by
    rintro rfl
    obtain ⟨c, member, letter⟩ := letter
    cases letter.symm.trans (isDigit_of_mem member)
  rw [word?, if_neg (noWord _ ⟨'t', by decide, rfl⟩), if_neg (noWord _ ⟨'f', by decide, rfl⟩),
    number?_toDigits bound]
  rfl

theorem writes_truth (b : Bool) : Writes (if b then "true" else "false").toList (.truth b) := by
  cases b with
  | true =>
      have bare : "true".toList.all isBare = true := by decide
      exact writes_word (by decide) (List.all_eq_true.mp bare) rfl
  | false =>
      have bare : "false".toList.all isBare = true := by decide
      exact writes_word (by decide) (List.all_eq_true.mp bare) rfl

theorem StringForm.write_opens (form : StringForm) (s : List Char) :
    ∃ rest, form.write s = '"' :: rest ∨ form.write s = '\'' :: rest := by
  cases form with
  | quoted | longQuoted => exact ⟨_, .inl rfl⟩
  | literal | longLiteral => exact ⟨_, .inr rfl⟩

theorem writes_string (s : String) : Writes (writeString s).toList (.string s.toList) := by
  intro rest
  have read := string?_write (StringForm.fits_of s.toList) rest
  rw [writeString, String.toList_ofList]
  obtain ⟨body, double | single⟩ := (StringForm.of s.toList).write_opens s.toList
  · rw [double] at read ⊢
    change (string? ('"' :: body ++ '\n' :: rest)).map _ = _
    rw [read]
    rfl
  · rw [single] at read ⊢
    change (string? ('\'' :: body ++ '\n' :: rest)).map _ = _
    rw [read]
    rfl

/-! ### Lines -/

/-- The line that sets a key to a value. -/
def lineOf (key : Key) (value : List Char) : List Char :=
  key.word.toList ++ " = ".toList ++ value ++ ['\n']

theorem isKeyPart_of_mem_word (key : Key) : ∀ c ∈ key.word.toList, isKeyPart c = true := by
  have parts : key.word.toList.all isKeyPart = true := by cases key <;> decide
  exact List.all_eq_true.mp parts

theorem ofWord?_word (key : Key) : Key.ofWord? key.word.toList = some key := by
  cases key <;> rfl

section Lines

variable {key : Key} {value : List Char} {item : Item}

theorem ne_of_isKeyPart {c d : Char} (part : isKeyPart c = true) (other : isKeyPart d = false) :
    c ≠ d := by
  rintro rfl
  cases other.symm.trans part

/-- A line begins with a part of a key. -/
theorem exists_lineOf (key : Key) (value rest : List Char) :
    ∃ c cs, lineOf key value ++ rest = c :: cs ∧ isKeyPart c = true := by
  cases word : key.word.toList with
  | nil => cases key <;> cases word
  | cons c cs =>
      refine ⟨c, cs ++ " = ".toList ++ value ++ ['\n'] ++ rest, ?_, ?_⟩
      · rw [lineOf, word]
        rfl
      · exact isKeyPart_of_mem_word key c (word ▸ List.mem_cons_self)

theorem lineOf_append_ne {d : Char} (other : isKeyPart d = false) (rest after : List Char) :
    lineOf key value ++ rest ≠ d :: after := by
  obtain ⟨c, cs, first, part⟩ := exists_lineOf key value rest
  rw [first]
  intro same
  exact ne_of_isKeyPart part other (List.cons.inj same).1

theorem skipBlanks_lineOf (rest : List Char) :
    skipBlanks (lineOf key value ++ rest) = lineOf key value ++ rest := by
  obtain ⟨c, cs, first, part⟩ := exists_lineOf key value rest
  have blank : isBlank c = false := by
    simp [isBlank, ne_of_isKeyPart part (d := ' ') rfl, ne_of_isKeyPart part (d := '\t') rfl]
  rw [first, skipBlanks_cons blank]

theorem readKey?_lineOf (rest : List Char) :
    readKey? (lineOf key value ++ rest) =
      some (key, ' ' :: '=' :: ' ' :: value ++ '\n' :: rest) := by
  have shape : lineOf key value ++ rest =
      key.word.toList ++ ' ' :: ('=' :: ' ' :: value ++ '\n' :: rest) := by
    simp [lineOf]
  obtain ⟨front, back⟩ := takeWhile_stop (p := isKeyPart) (isKeyPart_of_mem_word key)
    (d := ' ') rfl ('=' :: ' ' :: value ++ '\n' :: rest)
  rw [readKey?]
  · rw [shape, front, back, ofWord?_word]
    rfl
  · exact fun after => lineOf_append_ne rfl rest after
  · exact fun after => lineOf_append_ne rfl rest after

/-- A line is read as the entry that it was written for. -/
theorem entry_lineOf (writes : Writes value item) (rest : List Char) :
    entry (lineOf key value ++ rest) = some ((key, item), '\n' :: rest) := by
  rw [entry, readKey?_lineOf]
  change (Item.read? (skipBlanks (' ' :: value ++ '\n' :: rest))).bind _ = _
  rw [writes rest]
  rfl

theorem line?_lineOf (writes : Writes value item) (rest : List Char) :
    line? (lineOf key value ++ rest) = some (some (key, item), rest) := by
  unfold line?
  rw [skipBlanks_lineOf]
  dsimp only
  split
  · rename_i none
    obtain ⟨c, cs, first, -⟩ := exists_lineOf key value rest
    cases first.symm.trans none
  · rename_i same
    exact absurd same (lineOf_append_ne rfl rest _)
  · rename_i same
    exact absurd same (lineOf_append_ne rfl rest _)
  · rename_i same
    exact absurd same (lineOf_append_ne rfl rest _)
  · rw [entry_lineOf writes]
    rfl

theorem entries?_lineOf (writes : Writes value item) (rest : List Char) :
    entries? (lineOf key value ++ rest) = (entries? rest).map ((key, item) :: ·) := by
  have some : lineOf key value ++ rest ≠ [] := by
    obtain ⟨c, cs, first, -⟩ := exists_lineOf key value rest
    rw [first]
    exact List.cons_ne_nil c cs
  have shorter : rest.length < (lineOf key value ++ rest).length := by
    simp only [lineOf, List.length_append, List.length_cons]
    omega
  rw [entries?, if_neg some, line?_lineOf writes]
  exact dif_pos shorter

end Lines

/-! ### Settings -/

/-- What is written of settings has a line for each key. -/
theorem toList_written? {s : Settings} {content : String} (written : s.written? = some content) :
    s.registers < numberBound ∧ s.side < numberBound ∧
      content.toList = lineOf .registers (Nat.toDigits 10 s.registers) ++
        (lineOf .side (Nat.toDigits 10 s.side) ++
          (lineOf .trace (if s.trace then "true" else "false").toList ++
            (lineOf .logLevel (writeString s.logLevel).toList ++
              (lineOf .prompt (writeString s.prompt).toList ++ [])))) := by
  unfold written? at written
  split at written
  · rename_i bounds
    cases written
    refine ⟨bounds.1, bounds.2, ?_⟩
    simp [lineOf, String.toList_append, Nat.toString_eq_repr, Nat.toList_repr]
  · cases written

/-- Without a byte order mark in front, all of a text is read. -/
theorem ofText?_of_no_mark {text : String} (noMark : ∀ rest, text.toList ≠ '\ufeff' :: rest) :
    ofText? text = (entries? text.toList).bind ofEntries? := by
  unfold ofText?
  split
  · rename_i marked
    exact absurd marked (noMark _)
  · rfl

/-- One entry for each key makes the settings that the entries tell. -/
theorem ofEntries?_all (s : Settings) :
    ofEntries? [(.registers, .number s.registers), (.side, .number s.side), (.trace, .truth s.trace),
      (.logLevel, .string s.logLevel.toList), (.prompt, .string s.prompt.toList)] = some s := by
  have distinct : Key.all.Nodup := by decide
  refine (if_pos distinct).trans ?_
  simp [assign?, String.ofList_toList]

/-- What is written of settings is read as these settings, whatever their strings hold. -/
theorem readsBack_lineFormat : Format.ReadsBack := by
  intro s content written
  obtain ⟨registers, side, lines⟩ := toList_written? written
  have read : entries? content.toList =
      some [(.registers, .number s.registers), (.side, .number s.side), (.trace, .truth s.trace),
        (.logLevel, .string s.logLevel.toList), (.prompt, .string s.prompt.toList)] := by
    rw [lines, entries?_lineOf (writes_number registers), entries?_lineOf (writes_number side),
      entries?_lineOf (writes_truth s.trace), entries?_lineOf (writes_string s.logLevel),
      entries?_lineOf (writes_string s.prompt), entries?]
    rfl
  have noMark (rest : List Char) : content.toList ≠ '\ufeff' :: rest := by
    rw [lines]
    exact lineOf_append_ne (by decide) _ rest
  have whole : ofText? content = some s := by
    rw [ofText?_of_no_mark noMark, read]
    exact ofEntries?_all s
  exact whole

/-! ### Saving and loading -/

section Saved

variable [Format]

/-- In a format that reads back what it writes, settings that are saved are loaded again. Only those
    without a side are refused. -/
theorem load_text (back : Format.ReadsBack) {s : Settings} {content : String}
    (saved : s.text = .ok content) (path : String) :
    load path (.ok content) = if s.side = 0 then .error (.noSide path) else .ok s := by
  have written : Format.write s = some content := by
    unfold text at saved
    split at saved
    · rename_i found
      cases saved
      exact found
    · cases saved
  rw [load, back s content written]

/-- Settings that are loaded have a side, whatever the file holds and even if there is none. -/
theorem one_le_side_of_load {path : String} {content : Except ReadFailure String} {s : Settings}
    (loaded : load path content = .ok s) : 1 ≤ s.side := by
  unfold load at loaded
  split at loaded
  · cases loaded
    decide
  · cases loaded
    decide
  · cases loaded
    decide
  · cases loaded
  · split at loaded
    · cases loaded
    · split at loaded
      · cases loaded
      · rename_i some
        cases loaded
        exact Nat.pos_of_ne_zero some

end Saved

end QuantumAssembler.Settings
