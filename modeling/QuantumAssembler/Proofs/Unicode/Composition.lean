import Mathlib.Data.List.Chain
import Mathlib.Data.List.Nodup
import QuantumAssembler.Proofs.Unicode.Normalization
import QuantumAssembler.Text.WhiteSpace

/-!
Module: QuantumAssembler.Proofs.Unicode.Composition
Purpose: That a text is normalized piece by piece makes no difference: its normal form is what comes
  of decomposing, arranging, and composing the text as a whole. For in front of a starter with which
  nothing composes a text may be cut, every basic character decomposes into such a starter and marks
  in order, and these compose to the character again. White space is such a starter too and composes
  with nothing behind it, so the text in front of it and the text behind it are normalized each on
  its own.
Main exports: StandsApart, canonicalForm, canonicalForm_append, Unfolds, unfolds_decompose,
  normalize_eq_canonicalForm, normalize_append_whiteSpace, keepsMargins
-/

namespace QuantumAssembler.Unicode

/-- A starter that does not compose with what stands in front of it. -/
structure StandsApart (c : Char) : Prop where
  starter : combiningClass c = 0
  uncomposed : ∀ first, composite? first c = none

/-- The normal form of a text without a division: all is decomposed, the marks are put into order, and
    what can be composed is composed. -/
def canonicalForm (cs : List Char) : List Char :=
  compose (arrange (cs.flatMap decompose))

/-! ### Cutting a text -/

theorem place_append {d : Char} (starter : combiningClass d = 0) (c : Char)
    (before behind : List Char) :
    place c (before ++ d :: behind) = place c before ++ d :: behind := by
  induction before with
  | nil => simp [place, starter]
  | cons e rest ih =>
      simp only [List.cons_append, place, ih]
      split <;> rfl

/-- Marks stay behind their starter. -/
theorem arrange_append {d : Char} (starter : combiningClass d = 0) (before behind : List Char) :
    arrange (before ++ d :: behind) = arrange before ++ arrange (d :: behind) := by
  have front := arrange_cons_of_starter starter behind
  induction before with
  | nil => rfl
  | cons c rest ih =>
      rw [front] at ih ⊢
      change place c (arrange (rest ++ d :: behind)) = place c (arrange rest) ++ d :: arrange behind
      rw [ih, place_append starter]

theorem composeFrom_append {d : Char} (apart : StandsApart d) (starter : Char)
    (skipped : List Char) (highest : Nat) (before behind : List Char) :
    composeFrom starter skipped highest (before ++ d :: behind) =
      composeFrom starter skipped highest before ++ compose (d :: behind) := by
  have first : isStarter d = true := by simp [isStarter, apart.starter]
  induction before generalizing starter skipped highest with
  | nil => simp [composeFrom, compose, apart.uncomposed, first]
  | cons c rest ih =>
      simp only [List.cons_append, composeFrom, ih]
      split
      · rfl
      · split
        · exact (List.append_assoc (starter :: skipped) _ _).symm
        · rfl

theorem compose_append {d : Char} (apart : StandsApart d) (before behind : List Char) :
    compose (before ++ d :: behind) = compose before ++ compose (d :: behind) := by
  induction before with
  | nil => rfl
  | cons c rest ih =>
      rw [List.cons_append, compose, compose.eq_def (c :: rest)]
      simp only [ih, composeFrom_append apart]
      split <;> rfl

/-- In front of a text whose decomposition begins with a starter that stands apart, a text may be cut.
    -/
theorem canonicalForm_append {behind : List Char} {d : Char} {rest : List Char}
    (decomposed : behind.flatMap decompose = d :: rest) (apart : StandsApart d)
    (before : List Char) :
    canonicalForm (before ++ behind) = canonicalForm before ++ canonicalForm behind := by
  rw [canonicalForm, canonicalForm, canonicalForm, List.flatMap_append, decomposed,
    arrange_append apart.starter, arrange_cons_of_starter apart.starter, compose_append apart]

/-! ### The tables -/

/-- The character of a point below the first mark is basic. -/
theorem isBasic_ofNat {point : Nat} (low : point < 0x300) :
    (Char.ofNat point).toNat = point ∧ isBasic (Char.ofNat point) = true := by
  have same := toNat_ofNat (.inl (Nat.lt_trans low (by decide)))
  refine ⟨same, ?_⟩
  rw [isBasic, same]
  exact decide_eq_true low

/-- What is put into a table under one key only is found there. -/
theorem getElem?_ofList_of_mem {κ β : Type} [BEq κ] [Hashable κ] [LawfulBEq κ]
    {entries : List (κ × β)} {key : κ} {value : β} (member : (key, value) ∈ entries)
    (only : ∀ held, (key, held) ∈ entries → held = value) :
    (Std.HashMap.ofList entries)[key]? = some value := by
  have present : key ∈ Std.HashMap.ofList entries := by
    rw [Std.HashMap.mem_ofList]
    simpa using ⟨value, member⟩
  cases found : (Std.HashMap.ofList entries)[key]? with
  | none => simp [present] at found
  | some held => rw [only held (mem_of_getElem?_ofList found)]

/-- A composite is listed in the row of its second part. -/
theorem mem_composites_iff {first second whole : Nat} :
    (first, second, whole) ∈ composites ↔
      ∃ pairs, (second, pairs) ∈ compositeRows ∧ (first, whole) ∈ pairs := by
  simp [composites]

theorem second_of_mem_compositeRows : ∀ row ∈ compositeRows, 0x300 ≤ row.1 := by
  decide +kernel

theorem whole_of_mem_composites : ∀ e ∈ composites, 0xC0 ≤ e.2.2 := by
  decide +kernel

/-- The parts of a basic composite. A first part that may itself be a composite goes with marks above
    only; those begin the marks. -/
theorem parts_of_mem_composites : ∀ e ∈ composites, e.2.2 < 0x300 →
    e.1 < 0x300 ∧ e.2.1 < 0x330 ∧ e.2.1 ≠ 0x315 ∧ e.2.1 ≠ 0x31A ∧ (0xC0 ≤ e.1 → e.2.1 < 0x315) := by
  decide +kernel

theorem nodup_compositeRows : (compositeRows.map Prod.fst).Nodup := by
  decide +kernel

/-- No other composite in its row has the first part of a basic one. -/
theorem whole_of_mem_compositeRows : ∀ row ∈ compositeRows, ∀ pair ∈ row.2, pair.2 < 0x300 →
    ∀ other ∈ row.2, other.1 = pair.1 → other.2 = pair.2 := by
  decide +kernel

/-- The first marks are of class 230, and no mark up to U+032F is of a higher class but two. -/
theorem class_of_mem_classEntries : ∀ e ∈ classEntries,
    (e.1 < 0x315 → e.2 = 230) ∧ (e.1 < 0x330 → e.1 ≠ 0x315 → e.1 ≠ 0x31A → e.2 ≤ 230) := by
  decide +kernel

theorem point_of_mem_lasting : ∀ e ∈ lasting, 0x300 ≤ e.1 := by
  decide +kernel

/-- No other composite has the parts of a basic one. -/
theorem whole_unique {first second whole other : Nat} (low : whole < 0x300)
    (member : (first, second, whole) ∈ composites)
    (memberOther : (first, second, other) ∈ composites) : other = whole := by
  obtain ⟨pairs, row, inside⟩ := mem_composites_iff.mp member
  obtain ⟨more, rowOther, insideOther⟩ := mem_composites_iff.mp memberOther
  cases List.inj_on_of_nodup_map nodup_compositeRows row rowOther rfl
  exact whole_of_mem_compositeRows _ row _ inside low _ insideOther rfl

theorem mem_classEntries {c : Char} (mark : 0 < combiningClass c) :
    (c.toNat, combiningClass c) ∈ classEntries := by
  unfold combiningClass at mark ⊢
  split at mark
  · cases mark
  · rename_i high
    rw [if_neg high]
    rw [Std.HashMap.getD_eq_getD_getElem?] at mark ⊢
    cases found : classTable[c.toNat]? with
    | none =>
        rw [found] at mark
        cases mark
    | some number =>
        unfold classTable at found
        exact mem_of_getElem?_ofList found

/-- The class of the second part of a basic composite. -/
theorem combiningClass_second {first second whole : Nat} (low : whole < 0x300)
    (member : (first, second, whole) ∈ composites) :
    combiningClass (Char.ofNat second) ≤ 230 ∧
      (0xC0 ≤ first → 0 < combiningClass (Char.ofNat second) →
        combiningClass (Char.ofNat second) = 230) := by
  obtain ⟨-, small, notComma, notCorner, above⟩ := parts_of_mem_composites _ member low
  simp only at small notComma notCorner above
  rcases Nat.eq_zero_or_pos (combiningClass (Char.ofNat second)) with starter | mark
  · rw [starter]
    exact ⟨by decide, fun _ mark => absurd mark (by decide)⟩
  · have listed := mem_classEntries mark
    rw [toNat_ofNat (.inl (by omega))] at listed
    obtain ⟨equal, bounded⟩ := class_of_mem_classEntries _ listed
    exact ⟨bounded small notComma notCorner, fun high _ => equal (above high)⟩

theorem syllable?_of_lt {first : Nat} (low : first < 0x300) (second : Nat) :
    syllable? first second = none := by
  have noLead : ¬ leadBase ≤ first := by
    unfold leadBase
    omega
  have noSyllable : ¬ syllableBase ≤ first := by
    unfold syllableBase
    omega
  simp [syllable?, noLead, noSyllable]

/-- A basic composite is found under its parts. -/
theorem composite?_of_mem_composites {first second whole : Nat} (low : whole < 0x300)
    (member : (first, second, whole) ∈ composites) :
    composite? (Char.ofNat first) (Char.ofNat second) = some (Char.ofNat whole) := by
  obtain ⟨lowFirst, small, -⟩ := parts_of_mem_composites _ member low
  simp only at lowFirst small
  have found : compositeTable[(first, second)]? = some whole := by
    unfold compositeTable
    apply getElem?_ofList_of_mem
    · exact List.mem_map.mpr ⟨_, member, rfl⟩
    · intro held other
      obtain ⟨⟨one, two, both⟩, inside, same⟩ := List.mem_map.mp other
      cases same
      exact whole_unique low member inside
  rw [composite?, (isBasic_ofNat lowFirst).1, toNat_ofNat (.inl (by omega)),
    syllable?_of_lt lowFirst]
  simp [found]

/-! ### Basic characters -/

/-- The ranges of what composes to a Hangul syllable. -/
theorem ranges_of_syllable? {first second whole : Nat}
    (found : syllable? first second = some whole) :
    (leadBase ≤ first ∧ first < leadBase + leadCount ∨ syllableBase ≤ first) ∧
      vowelBase ≤ second ∧ second < tailBase + tailCount := by
  unfold syllable? at found
  split at found
  · rename_i letters
    obtain ⟨low, high, lowSecond, highSecond⟩ := letters
    exact ⟨.inl ⟨low, high⟩, lowSecond, Nat.lt_trans highSecond (by decide)⟩
  · split at found
    · rename_i tail
      obtain ⟨low, -, -, lowSecond, highSecond⟩ := tail
      exact ⟨.inr low, Nat.le_of_lt (Nat.lt_trans (by decide) lowSecond), highSecond⟩
    · cases found

theorem isBasic_second {first second whole : Char}
    (composed : composite? first second = some whole) : isBasic second = false := by
  have high : 0x300 ≤ second.toNat := by
    unfold composite? at composed
    split at composed
    · rename_i point found
      exact Nat.le_trans (by decide) (ranges_of_syllable? found).2.1
    · obtain ⟨point, found, -⟩ := Option.map_eq_some_iff.mp composed
      obtain ⟨pairs, row, -⟩ := mem_composites_iff.mp (mem_composites_of_compositeTable found)
      exact second_of_mem_compositeRows _ row
  simpa [isBasic] using high

/-- Basic characters are starters with which nothing composes. -/
theorem standsApart_of_isBasic {c : Char} (basic : isBasic c = true) : StandsApart c := by
  refine ⟨if_pos basic, ?_⟩
  intro first
  cases composed : composite? first c with
  | none => rfl
  | some whole =>
      rw [isBasic_second composed] at basic
      cases basic

/-- Two characters that keep their places when marks are put into order. -/
def Settled (c d : Char) : Prop :=
  ¬ (0 < combiningClass d ∧ combiningClass d < combiningClass c)

theorem arrange_eq_self {cs : List Char} (settled : cs.IsChain Settled) : arrange cs = cs := by
  induction settled with
  | nil => rfl
  | singleton c => rfl
  | cons_cons first _ ih =>
      change place _ (arrange _) = _
      rw [ih, place, if_neg first]

/-- A row of characters into which a basic character is taken apart: a basic character in front, and
    behind it marks in their order, which compose to the whole. No class above 230 occurs among these
    marks, and what has one is not below U+00C0. -/
structure Unfolds (cs : List Char) (whole : Char) : Prop where
  opens : ∃ first marks, cs = first :: marks ∧ isBasic first = true
  settled : cs.IsChain Settled
  composes : ∀ rest, compose (cs ++ rest) = composeFrom whole [] 0 rest
  last : ∀ c ∈ cs.getLast?, combiningClass c = 0 ∨
    (combiningClass c ≤ 230 ∧ 0xC0 ≤ whole.toNat)

theorem unfolds_singleton {c : Char} (basic : isBasic c = true) : Unfolds [c] c where
  opens := ⟨c, [], rfl, basic⟩
  settled := .singleton c
  composes rest := by
    have first : isStarter c = true := by simp [isStarter, (standsApart_of_isBasic basic).starter]
    rw [List.singleton_append, compose, if_pos first]
  last := by
    intro d found
    obtain rfl : c = d := by simpa using found
    exact .inl (standsApart_of_isBasic basic).starter

/-- A basic composite unfolds into what its first part unfolds into, and its second part. -/
theorem Unfolds.append {cs : List Char} {first second whole : Nat} (low : whole < 0x300)
    (member : (first, second, whole) ∈ composites) (unfolds : Unfolds cs (Char.ofNat first)) :
    Unfolds (cs ++ [Char.ofNat second]) (Char.ofNat whole) := by
  have lowFirst := (parts_of_mem_composites _ member low).1
  obtain ⟨bounded, above⟩ := combiningClass_second low member
  constructor
  case opens =>
    obtain ⟨start, marks, rfl, basic⟩ := unfolds.opens
    exact ⟨start, marks ++ [Char.ofNat second], rfl, basic⟩
  case settled =>
    apply List.isChain_append.mpr
    refine ⟨unfolds.settled, .singleton _, ?_⟩
    intro c found d same
    obtain rfl : Char.ofNat second = d := by simpa using same
    rintro ⟨mark, under⟩
    rcases unfolds.last c found with starter | ⟨small, high⟩
    · omega
    · -- The first part has marks itself, so this one is of the highest class that occurs.
      rw [(isBasic_ofNat lowFirst).1] at high
      have highest := above high mark
      omega
  case composes =>
    intro rest
    rw [List.append_assoc, unfolds.composes, List.singleton_append, composeFrom,
      composite?_of_mem_composites low member]
    rfl
  case last =>
    intro c found
    obtain rfl : Char.ofNat second = c := by simpa using found
    refine .inr ⟨bounded, ?_⟩
    rw [(isBasic_ofNat low).1]
    exact whole_of_mem_composites _ member

/-- Basic characters unfold, however deep the decomposition goes. -/
theorem unfolds_decomposePoint (depth : Nat) {point : Nat} (low : point < 0x300) :
    Unfolds ((decomposePoint depth point).map Char.ofNat) (Char.ofNat point) := by
  induction depth generalizing point with
  | zero => exact unfolds_singleton (isBasic_ofNat low).2
  | succ depth ih =>
      unfold decomposePoint
      split
      · rename_i letters found
        simp only [syllableLetters?, Option.ite_none_right_eq_some] at found
        have high := Nat.lt_of_lt_of_le low (Nat.le_trans (by decide) found.1.1)
        exact absurd high (Nat.lt_irrefl _)
      · split
        · rename_i points found
          unfold lastingTable at found
          have high := point_of_mem_lasting _ (mem_of_getElem?_ofList found)
          exact absurd low (Nat.not_lt.mpr high)
        · split
          · rename_i first second found
            have member := mem_composites_of_partsTable found
            have lowFirst := (parts_of_mem_composites _ member low).1
            rw [List.map_append]
            apply Unfolds.append low member
            exact ih lowFirst
          · exact unfolds_singleton (isBasic_ofNat low).2

theorem unfolds_decompose {c : Char} (basic : isBasic c = true) : Unfolds (decompose c) c := by
  have unfolds := unfolds_decomposePoint 4 (of_decide_eq_true basic)
  rwa [Char.ofNat_toNat] at unfolds

/-- Taken apart and put together again, a basic character is itself. -/
theorem canonicalForm_singleton {c : Char} (basic : isBasic c = true) : canonicalForm [c] = [c] := by
  have unfolds := unfolds_decompose basic
  have whole := unfolds.composes []
  rw [List.append_nil] at whole
  rw [canonicalForm, List.flatMap_singleton, arrange_eq_self unfolds.settled, whole]
  rfl

/-- In front of a basic character a text may be cut. -/
theorem canonicalForm_append_of_isBasic {c : Char} (basic : isBasic c = true)
    (before behind : List Char) :
    canonicalForm (before ++ c :: behind) =
      canonicalForm before ++ canonicalForm (c :: behind) := by
  obtain ⟨first, marks, decomposed, opens⟩ := (unfolds_decompose basic).opens
  have whole : (c :: behind).flatMap decompose = first :: (marks ++ behind.flatMap decompose) := by
    rw [List.flatMap_cons, decomposed]
    rfl
  exact canonicalForm_append whole (standsApart_of_isBasic opens) before

/-! ### Clusters -/

theorem normalizeCluster_eq (cs : List Char) : normalizeCluster cs = canonicalForm cs := by
  unfold normalizeCluster
  split
  · rename_i c
    split
    · rename_i basic
      rw [canonicalForm_singleton basic]
    · rw [canonicalForm, List.flatMap_singleton]
  · rfl

/-- Without a basic character behind the first there is only one cluster. -/
theorem clusters_of_high {c : Char} {rest : List Char} (high : ∀ d ∈ rest, isBasic d = false) :
    clusters (c :: rest) = [c :: rest] := by
  induction rest generalizing c with
  | nil => rfl
  | cons d rest ih =>
      rw [clusters, ih fun e member => high e (List.mem_cons_of_mem d member)]
      simp [high d List.mem_cons_self]

theorem normalize_eq_of_high {c : Char} {front : List Char} (rest : List Char)
    (high : ∀ d ∈ front, isBasic d = false) :
    normalize (c :: front ++ rest) = canonicalForm (c :: front ++ rest) := by
  have alone : ∀ {c : Char} {front : List Char}, (∀ d ∈ front, isBasic d = false) →
      normalize (c :: front) = canonicalForm (c :: front) := by
    intro c front high
    rw [normalize, clusters_of_high high, List.flatMap_singleton, normalizeCluster_eq]
  induction rest generalizing c front with
  | nil =>
      rw [List.append_nil]
      exact alone high
  | cons d rest ih =>
      cases kind : isBasic d with
      | true =>
          have next : normalize (d :: rest) = canonicalForm (d :: rest) :=
            @ih d [] fun e none => absurd none List.not_mem_nil
          rw [normalize_append_cons kind, canonicalForm_append_of_isBasic kind, alone high, next]
      | false =>
          have joined : ∀ e ∈ front ++ [d], isBasic e = false := by
            intro e member
            rcases List.mem_append.mp member with member | last
            · exact high e member
            · rwa [List.mem_singleton.mp last]
          have whole := ih (c := c) joined
          rwa [← List.cons_append, List.append_assoc, List.singleton_append] at whole

/-- The division of a text into clusters does not matter for its normal form. -/
theorem normalize_eq_canonicalForm (cs : List Char) : normalize cs = canonicalForm cs := by
  cases cs with
  | nil => rfl
  | cons c rest => exact @normalize_eq_of_high c [] rest fun d none => absurd none List.not_mem_nil

/-! ### White space -/

theorem not_isWhiteSpace_of_mem_composites : ∀ e ∈ composites,
    Text.isWhiteSpace (Char.ofNat e.1) = false ∧ Text.isWhiteSpace (Char.ofNat e.2.1) = false ∧
      Text.isWhiteSpace (Char.ofNat e.2.2) = false := by
  decide +kernel

theorem not_isWhiteSpace_of_mem_classEntries :
    ∀ e ∈ classEntries, Text.isWhiteSpace (Char.ofNat e.1) = false := by
  decide +kernel

/-- White space that is never composed decomposes into one other white space. -/
theorem isWhiteSpace_of_mem_lasting : ∀ e ∈ lasting, Text.isWhiteSpace (Char.ofNat e.1) = true →
    e.2.length = 1 ∧ ∀ point ∈ e.2, Text.isWhiteSpace (Char.ofNat point) = true := by
  decide +kernel

section WhiteSpace

variable {c : Char} (white : Text.isWhiteSpace c = true)
include white

theorem combiningClass_of_isWhiteSpace : combiningClass c = 0 := by
  rcases Nat.eq_zero_or_pos (combiningClass c) with starter | mark
  · exact starter
  · have dark := not_isWhiteSpace_of_mem_classEntries _ (mem_classEntries mark)
    rw [Char.ofNat_toNat, white] at dark
    cases dark

/-- White space is no Hangul. -/
theorem range_of_isWhiteSpace :
    c.toNat < leadBase ∨ (tailBase + tailCount ≤ c.toNat ∧ c.toNat < syllableBase) := by
  simp only [Text.isWhiteSpace, Bool.or_eq_true, Bool.and_eq_true, decide_eq_true_eq,
    beq_iff_eq] at white
  simp only [leadBase, tailBase, tailCount, syllableBase]
  omega

theorem syllable?_of_isWhiteSpace (other : Nat) :
    syllable? c.toNat other = none ∧ syllable? other c.toNat = none := by
  have range := range_of_isWhiteSpace white
  constructor
  · cases found : syllable? c.toNat other with
    | none => rfl
    | some whole =>
        obtain ⟨first, -⟩ := ranges_of_syllable? found
        simp only [leadBase, leadCount, tailBase, tailCount, syllableBase] at range first
        omega
  · cases found : syllable? other c.toNat with
    | none => rfl
    | some whole =>
        obtain ⟨-, low, high⟩ := ranges_of_syllable? found
        simp only [leadBase, vowelBase, tailBase, tailCount, syllableBase] at range low high
        omega

/-- White space is in no composite. -/
theorem composite?_of_isWhiteSpace (other : Char) :
    composite? c other = none ∧ composite? other c = none := by
  obtain ⟨first, second⟩ := syllable?_of_isWhiteSpace white other.toNat
  constructor
  · cases found : compositeTable[(c.toNat, other.toNat)]? with
    | none => simp [composite?, first, found]
    | some whole =>
        have dark := (not_isWhiteSpace_of_mem_composites _ (mem_composites_of_compositeTable found)).1
        rw [Char.ofNat_toNat, white] at dark
        cases dark
  · cases found : compositeTable[(other.toNat, c.toNat)]? with
    | none => simp [composite?, second, found]
    | some whole =>
        have dark :=
          (not_isWhiteSpace_of_mem_composites _ (mem_composites_of_compositeTable found)).2.1
        rw [Char.ofNat_toNat, white] at dark
        cases dark

/-- White space decomposes into one white space. -/
theorem decompose_of_isWhiteSpace : ∃ d, decompose c = [d] ∧ Text.isWhiteSpace d = true := by
  have noLetters : syllableLetters? c.toNat = none := by
    have range := range_of_isWhiteSpace white
    rw [syllableLetters?, if_neg]
    rintro ⟨high, -⟩
    simp only [leadBase, syllableBase] at range high
    omega
  rw [decompose, decomposePoint, noLetters]
  cases found : lastingTable[c.toNat]? with
  | some points =>
      unfold lastingTable at found
      have key : Text.isWhiteSpace (Char.ofNat c.toNat) = true := (Char.ofNat_toNat c).symm ▸ white
      obtain ⟨single, whites⟩ :=
        isWhiteSpace_of_mem_lasting (c.toNat, points) (mem_of_getElem?_ofList found) key
      obtain ⟨point, rfl⟩ := List.length_eq_one_iff.mp single
      exact ⟨Char.ofNat point, rfl, whites point List.mem_cons_self⟩
  | none =>
      cases parts : partsTable[c.toNat]? with
      | some pair =>
          obtain ⟨first, second⟩ := pair
          have dark := (not_isWhiteSpace_of_mem_composites _ (mem_composites_of_partsTable parts)).2.2
          rw [Char.ofNat_toNat, white] at dark
          cases dark
      | none => exact ⟨c, by simp, white⟩

/-- White space is normalized on its own, and so are the text in front of it and the text behind it.
    It may become other white space. -/
theorem normalize_append_whiteSpace (before behind : List Char) :
    ∃ d, Text.isWhiteSpace d = true ∧
      normalize (before ++ c :: behind) = normalize before ++ d :: normalize behind := by
  obtain ⟨d, decomposed, whiteToo⟩ := decompose_of_isWhiteSpace white
  have starter := combiningClass_of_isWhiteSpace whiteToo
  have apart : StandsApart d :=
    ⟨starter, fun first => (composite?_of_isWhiteSpace whiteToo first).2⟩
  have unfolded : (c :: behind).flatMap decompose = d :: behind.flatMap decompose := by
    rw [List.flatMap_cons, decomposed, List.singleton_append]
  refine ⟨d, whiteToo, ?_⟩
  simp only [normalize_eq_canonicalForm]
  rw [canonicalForm_append unfolded apart, canonicalForm, canonicalForm, canonicalForm, unfolded,
    arrange_cons_of_starter starter,
    compose_cons_of_uncomposed starter fun second => (composite?_of_isWhiteSpace whiteToo second).1]

end WhiteSpace

/-- Normalization form C keeps the margins of a text. -/
theorem keepsMargins : NormalForm.KeepsMargins where
  cons _ white cs := normalize_append_whiteSpace white [] cs
  concat _ white cs := normalize_append_whiteSpace white cs []

end QuantumAssembler.Unicode
