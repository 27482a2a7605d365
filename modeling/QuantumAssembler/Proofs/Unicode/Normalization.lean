import QuantumAssembler.Unicode.Normalization

/-!
Module: QuantumAssembler.Proofs.Unicode.Normalization
Purpose: What normalization leaves alone. A character below U+003B is solitary: it neither decomposes
  nor is it part of a decomposition or of a composite. So it stays where it is, the text in front of
  it and the text behind it are normalized each on its own, and none comes into a text. A text of
  basic characters is its own normal form.
Main exports: isSolitary, mem_of_getElem?_ofList, decompose_of_isSolitary, composite?_of_isSolitary,
  normalize_append_cons, normalize_append_solitary, mem_of_mem_normalize, normalize_eq_self,
  keepsAscii, actsOnLines
-/

namespace QuantumAssembler.Unicode

/-- Whether a character takes part in no decomposition and in no composite. -/
def isSolitary (c : Char) : Bool :=
  c.toNat < 0x3B

/-- What the code points that decompositions and composites are made of have in common. -/
def IsPart (point : Nat) : Prop :=
  0x3B ≤ point ∧ point.isValidChar

instance (point : Nat) : Decidable (IsPart point) :=
  inferInstanceAs (Decidable (_ ∧ _))

theorem isPart_of_le {point : Nat} (low : 0x3B ≤ point) (high : point < 0xD800) : IsPart point :=
  ⟨low, .inl high⟩

theorem isBasic_of_isSolitary {c : Char} (solitary : isSolitary c = true) : isBasic c = true := by
  simp only [isSolitary, isBasic, decide_eq_true_eq] at solitary ⊢
  omega

/-- The code point of a solitary character is no part. -/
theorem not_isPart_of_isSolitary {c : Char} (solitary : isSolitary c = true) :
    ¬ IsPart c.toNat := by
  simp only [isSolitary, decide_eq_true_eq] at solitary
  rintro ⟨high, -⟩
  omega

theorem toNat_ofNat {point : Nat} (valid : point.isValidChar) :
    (Char.ofNat point).toNat = point := by
  rw [Char.ofNat, dif_pos valid]
  rfl

/-- The character of a part is not solitary. -/
theorem IsPart.isSolitary_ofNat {point : Nat} (part : IsPart point) :
    isSolitary (Char.ofNat point) = false := by
  obtain ⟨high, valid⟩ := part
  simp only [isSolitary, toNat_ofNat valid, decide_eq_false_iff_not]
  omega

/-! ### The tables -/

/-- What is found in a table was put into it. -/
theorem mem_of_getElem?_ofList {κ β : Type} [BEq κ] [Hashable κ] [LawfulBEq κ]
    {entries : List (κ × β)} {key : κ} {value : β}
    (found : (Std.HashMap.ofList entries)[key]? = some value) : (key, value) ∈ entries := by
  rw [Std.HashMap.ofList_eq_insertMany_empty, Std.HashMap.getElem?_insertMany_list,
    Std.HashMap.getElem?_empty, Option.or_none, List.findSomeRev?_eq_findSome?_reverse] at found
  obtain ⟨⟨other, held⟩, member, chosen⟩ := List.exists_of_findSome?_eq_some found
  simp only [Option.ite_none_right_eq_some, Option.some.injEq] at chosen
  obtain ⟨same, rfl⟩ := chosen
  exact eq_of_beq same ▸ List.mem_reverse.mp member

theorem isPart_of_mem_composites :
    ∀ e ∈ composites, IsPart e.1 ∧ IsPart e.2.1 ∧ IsPart e.2.2 := by
  decide +kernel

theorem isPart_of_mem_lasting : ∀ e ∈ lasting, IsPart e.1 ∧ ∀ point ∈ e.2, IsPart point := by
  decide +kernel

theorem mem_composites_of_partsTable {whole first second : Nat}
    (found : partsTable[whole]? = some (first, second)) : (first, second, whole) ∈ composites := by
  unfold partsTable at found
  obtain ⟨⟨one, other, both⟩, member, same⟩ := List.mem_map.mp (mem_of_getElem?_ofList found)
  cases same
  exact member

theorem mem_composites_of_compositeTable {first second whole : Nat}
    (found : compositeTable[(first, second)]? = some whole) :
    (first, second, whole) ∈ composites := by
  unfold compositeTable at found
  obtain ⟨⟨one, other, both⟩, member, same⟩ := List.mem_map.mp (mem_of_getElem?_ofList found)
  cases same
  exact member

theorem isPart_of_partsTable {whole first second : Nat}
    (found : partsTable[whole]? = some (first, second)) :
    IsPart whole ∧ IsPart first ∧ IsPart second := by
  obtain ⟨first, second, whole⟩ :=
    isPart_of_mem_composites _ (mem_composites_of_partsTable found)
  exact ⟨whole, first, second⟩

theorem isPart_of_compositeTable {first second whole : Nat}
    (found : compositeTable[(first, second)]? = some whole) : IsPart first ∧ IsPart whole := by
  obtain ⟨first, -, whole⟩ :=
    isPart_of_mem_composites _ (mem_composites_of_compositeTable found)
  exact ⟨first, whole⟩

theorem isPart_of_lastingTable {point : Nat} {points : List Nat}
    (found : lastingTable[point]? = some points) :
    IsPart point ∧ ∀ part ∈ points, IsPart part := by
  unfold lastingTable at found
  exact isPart_of_mem_lasting _ (mem_of_getElem?_ofList found)

theorem isPart_of_syllableLetters {point : Nat} {letters : List Nat}
    (found : syllableLetters? point = some letters) :
    IsPart point ∧ ∀ letter ∈ letters, IsPart letter := by
  simp only [syllableLetters?, Option.ite_none_right_eq_some, Option.some.injEq] at found
  obtain ⟨inside, rfl⟩ := found
  refine ⟨?_, fun letter member => ?_⟩
  · simp only [syllableBase, syllableCount, leadCount, vowelCount, tailCount] at inside
    exact isPart_of_le (by omega) (by omega)
  · have possible : letter ∈ [leadBase + (point - syllableBase) / (vowelCount * tailCount),
        vowelBase + (point - syllableBase) % (vowelCount * tailCount) / tailCount,
        tailBase + (point - syllableBase) % tailCount] := by
      split at member
      · exact List.mem_of_mem_take (i := 2) member
      · exact member
    simp only [List.mem_cons, List.not_mem_nil, or_false, syllableBase, syllableCount, leadBase,
      leadCount, vowelBase, vowelCount, tailBase, tailCount] at inside possible
    exact isPart_of_le (by omega) (by omega)

theorem isPart_of_syllable {first second whole : Nat}
    (found : syllable? first second = some whole) : IsPart first ∧ IsPart whole := by
  unfold syllable? at found
  split at found
  · rename_i inside
    obtain rfl := Option.some.inj found
    simp only [leadBase, leadCount, vowelBase, vowelCount] at inside
    simp only [syllableBase, leadBase, vowelBase, vowelCount, tailCount]
    exact ⟨isPart_of_le (by omega) (by omega), isPart_of_le (by omega) (by omega)⟩
  · split at found
    · rename_i inside
      obtain rfl := Option.some.inj found
      simp only [syllableBase, syllableCount, leadCount, vowelCount, tailBase, tailCount] at inside
      simp only [tailBase]
      exact ⟨isPart_of_le (by omega) (by omega), isPart_of_le (by omega) (by omega)⟩
    · cases found

/-! ### Decompositions -/

/-- A code point decomposes into itself or into parts. -/
theorem eq_or_isPart_of_mem_decomposePoint {depth point part : Nat}
    (member : part ∈ decomposePoint depth point) : part = point ∨ IsPart part := by
  induction depth generalizing point part with
  | zero =>
      rw [decomposePoint, List.mem_singleton] at member
      exact .inl member
  | succ depth ih =>
      unfold decomposePoint at member
      split at member
      · rename_i letters found
        exact .inr ((isPart_of_syllableLetters found).2 part member)
      · split at member
        · rename_i points found
          exact .inr ((isPart_of_lastingTable found).2 part member)
        · split at member
          · rename_i first second found
            obtain ⟨-, firstPart, secondPart⟩ := isPart_of_partsTable found
            rcases List.mem_append.mp member with member | member
            · rcases ih member with rfl | deeper
              · exact .inr firstPart
              · exact .inr deeper
            · exact .inr (List.mem_singleton.mp member ▸ secondPart)
          · exact .inl (List.mem_singleton.mp member)

/-- Only parts decompose. -/
theorem decomposePoint_of_not_isPart (depth : Nat) {point : Nat} (noPart : ¬ IsPart point) :
    decomposePoint depth point = [point] := by
  cases depth with
  | zero => rw [decomposePoint]
  | succ depth =>
      unfold decomposePoint
      split
      · rename_i letters found
        exact absurd (isPart_of_syllableLetters found).1 noPart
      · split
        · rename_i points found
          exact absurd (isPart_of_lastingTable found).1 noPart
        · split
          · rename_i first second found
            exact absurd (isPart_of_partsTable found).1 noPart
          · rfl

theorem decompose_of_isSolitary {c : Char} (solitary : isSolitary c = true) :
    decompose c = [c] := by
  have stays := decomposePoint_of_not_isPart 4 (not_isPart_of_isSolitary solitary)
  rw [decompose, stays, List.map_singleton, Char.ofNat_toNat]

/-- No decomposition brings in a solitary character. -/
theorem eq_of_mem_decompose {c d : Char} (solitary : isSolitary d = true)
    (member : d ∈ decompose c) : d = c := by
  unfold decompose at member
  obtain ⟨part, inside, rfl⟩ := List.mem_map.mp member
  rcases eq_or_isPart_of_mem_decomposePoint inside with rfl | high
  · exact Char.ofNat_toNat c
  · rw [high.isSolitary_ofNat] at solitary
    cases solitary

/-! ### Composites -/

/-- Neither a composite nor its first part is solitary. -/
theorem isSolitary_of_composite {first second whole : Char}
    (composed : composite? first second = some whole) :
    isSolitary first = false ∧ isSolitary whole = false := by
  have ofParts : ∀ point, IsPart first.toNat ∧ IsPart point →
      isSolitary first = false ∧ isSolitary (Char.ofNat point) = false := by
    rintro point ⟨firstPart, part⟩
    have low := firstPart.isSolitary_ofNat
    rw [Char.ofNat_toNat] at low
    exact ⟨low, part.isSolitary_ofNat⟩
  unfold composite? at composed
  split at composed
  · rename_i point found
    obtain rfl := Option.some.inj composed
    exact ofParts point (isPart_of_syllable found)
  · obtain ⟨point, found, rfl⟩ := Option.map_eq_some_iff.mp composed
    exact ofParts point (isPart_of_compositeTable found)

theorem composite?_of_isSolitary {first : Char} (solitary : isSolitary first = true)
    (second : Char) : composite? first second = none := by
  cases composed : composite? first second with
  | none => rfl
  | some whole =>
      rw [(isSolitary_of_composite composed).1] at solitary
      cases solitary

/-! ### Order and composition within a cluster -/

theorem eq_or_mem_of_mem_place {c d : Char} {cs : List Char} (member : d ∈ place c cs) :
    d = c ∨ d ∈ cs := by
  induction cs with
  | nil => exact .inl (List.mem_singleton.mp member)
  | cons e rest ih =>
      unfold place at member
      split at member
      · rcases List.mem_cons.mp member with rfl | member
        · exact .inr List.mem_cons_self
        · exact (ih member).imp_right (List.mem_cons_of_mem e)
      · exact List.mem_cons.mp member

theorem mem_of_mem_arrange {d : Char} {cs : List Char} (member : d ∈ arrange cs) : d ∈ cs := by
  induction cs with
  | nil => exact member
  | cons c rest ih =>
      rcases eq_or_mem_of_mem_place member with rfl | member
      · exact List.mem_cons_self
      · exact List.mem_cons_of_mem c (ih member)

/-- A starter stays in front of all that follows it. -/
theorem arrange_cons_of_starter {c : Char} (starter : combiningClass c = 0) (cs : List Char) :
    arrange (c :: cs) = c :: arrange cs := by
  change place c (arrange cs) = c :: arrange cs
  cases arrange cs with
  | nil => rfl
  | cons d rest => simp [place, starter]

/-- A solitary character stays in front of all that follows it. -/
theorem arrange_cons_of_isSolitary {c : Char} (solitary : isSolitary c = true) (cs : List Char) :
    arrange (c :: cs) = c :: arrange cs :=
  arrange_cons_of_starter (if_pos (isBasic_of_isSolitary solitary)) cs

/-- No composition brings in a solitary character. -/
theorem mem_of_mem_composeFrom {starter d : Char} {skipped cs : List Char} {highest : Nat}
    (solitary : isSolitary d = true) (member : d ∈ composeFrom starter skipped highest cs) :
    d ∈ starter :: skipped ++ cs := by
  induction cs generalizing starter skipped highest with
  | nil => simpa [composeFrom] using member
  | cons c rest ih =>
      simp only [composeFrom] at member
      split at member
      · rename_i whole composed
        have apart : d ≠ whole := by
          rintro rfl
          simp only [Option.ite_none_left_eq_some] at composed
          rw [(isSolitary_of_composite composed.2).2] at solitary
          cases solitary
        have inside : d ∈ skipped ∨ d ∈ rest := by simpa [apart] using ih member
        rcases inside with skip | behind
        · simp [skip]
        · simp [behind]
      · split at member
        · rcases List.mem_append.mp member with front | behind
          · exact List.mem_append_left _ front
          · have inside : d ∈ c :: rest := by simpa using ih behind
            exact List.mem_append_right _ inside
        · simpa using ih member

theorem mem_of_mem_compose {d : Char} {cs : List Char} (solitary : isSolitary d = true)
    (member : d ∈ compose cs) : d ∈ cs := by
  induction cs with
  | nil => exact member
  | cons c rest ih =>
      unfold compose at member
      split at member
      · simpa using mem_of_mem_composeFrom solitary member
      · rcases List.mem_cons.mp member with rfl | member
        · exact List.mem_cons_self
        · exact List.mem_cons_of_mem c (ih member)

/-- Behind a starter that composes with nothing, composition begins anew. -/
theorem composeFrom_of_uncomposed {starter : Char}
    (uncomposed : ∀ second, composite? starter second = none)
    (skipped : List Char) (highest : Nat) (cs : List Char) :
    composeFrom starter skipped highest cs = starter :: skipped ++ compose cs := by
  induction cs generalizing skipped highest with
  | nil => simp [composeFrom, compose]
  | cons c rest ih =>
      simp only [composeFrom, compose, uncomposed, ite_self, ih]
      split
      · rfl
      · simp

theorem compose_cons_of_uncomposed {c : Char} (starter : combiningClass c = 0)
    (uncomposed : ∀ second, composite? c second = none) (cs : List Char) :
    compose (c :: cs) = c :: compose cs := by
  have first : isStarter c = true := by simp [isStarter, starter]
  rw [compose, if_pos first, composeFrom_of_uncomposed uncomposed, List.singleton_append]

theorem compose_cons_of_isSolitary {c : Char} (solitary : isSolitary c = true) (cs : List Char) :
    compose (c :: cs) = c :: compose cs :=
  compose_cons_of_uncomposed (if_pos (isBasic_of_isSolitary solitary))
    (composite?_of_isSolitary solitary) cs

/-! ### Clusters -/

theorem exists_clusters_cons (c : Char) (cs : List Char) :
    ∃ cluster others, clusters (c :: cs) = (c :: cluster) :: others := by
  unfold clusters
  split
  · split
    · exact ⟨_, _, rfl⟩
    · exact ⟨_, _, rfl⟩
  · exact ⟨_, _, rfl⟩

theorem flatten_clusters (cs : List Char) : (clusters cs).flatten = cs := by
  induction cs with
  | nil => rfl
  | cons c rest ih =>
      unfold clusters
      split
      · rename_i found
        rw [found] at ih
        split
        · simp [← ih]
        · simp [← ih]
      · simp [ih]

/-- The clusters of a text are cut in front of a basic character. -/
theorem clusters_append_cons {c : Char} (basic : isBasic c = true) (before behind : List Char) :
    clusters (before ++ c :: behind) = clusters before ++ clusters (c :: behind) := by
  induction before with
  | nil => rfl
  | cons d rest ih =>
      rw [List.cons_append, clusters, ih, clusters.eq_def (d :: rest)]
      cases rest with
      | nil =>
          obtain ⟨cluster, others, found⟩ := exists_clusters_cons c behind
          rw [found]
          simp [basic, clusters]
      | cons e rest =>
          obtain ⟨cluster, others, found⟩ := exists_clusters_cons e rest
          simp only [found, List.cons_append]
          cases isBasic e with
          | false => rfl
          | true => rfl

theorem normalizeCluster_of_not_isBasic {c : Char} (high : isBasic c = false) (cs : List Char) :
    normalizeCluster (c :: cs) = compose (arrange ((c :: cs).flatMap decompose)) := by
  cases cs with
  | nil => simp [normalizeCluster, high]
  | cons d rest => rfl

/-- A solitary character is kept in front of its cluster, the rest of which does not notice it. -/
theorem normalizeCluster_cons_of_isSolitary {c d : Char} (solitary : isSolitary c = true)
    (high : isBasic d = false) (cs : List Char) :
    normalizeCluster (c :: d :: cs) = c :: normalizeCluster (d :: cs) := by
  rw [normalizeCluster_of_not_isBasic high, ← compose_cons_of_isSolitary solitary,
    ← arrange_cons_of_isSolitary solitary]
  change compose (arrange ((c :: d :: cs).flatMap decompose)) = _
  rw [List.flatMap_cons, decompose_of_isSolitary solitary, List.singleton_append]

theorem mem_of_mem_normalizeCluster {d : Char} {cs : List Char} (solitary : isSolitary d = true)
    (member : d ∈ normalizeCluster cs) : d ∈ cs := by
  have general : d ∈ compose (arrange (cs.flatMap decompose)) → d ∈ cs := by
    intro member
    have inside := mem_of_mem_arrange (mem_of_mem_compose solitary member)
    obtain ⟨c, held, member⟩ := List.mem_flatMap.mp inside
    rwa [eq_of_mem_decompose solitary member]
  unfold normalizeCluster at member
  split at member
  · split at member
    · exact member
    · exact general (by simpa using member)
  · exact general member

/-! ### Texts -/

/-- In front of a basic character, a text may be cut before it is normalized. -/
theorem normalize_append_cons {c : Char} (basic : isBasic c = true) (before behind : List Char) :
    normalize (before ++ c :: behind) = normalize before ++ normalize (c :: behind) := by
  rw [normalize, clusters_append_cons basic, List.flatMap_append]
  rfl

@[simp] theorem normalize_nil : normalize [] = [] :=
  rfl

theorem normalize_singleton {c : Char} (basic : isBasic c = true) : normalize [c] = [c] := by
  simp [normalize, clusters, normalizeCluster, basic]

/-- A solitary character is kept in front of a text, which does not notice it. -/
theorem normalize_cons_of_isSolitary {c : Char} (solitary : isSolitary c = true)
    (cs : List Char) : normalize (c :: cs) = c :: normalize cs := by
  have basic := isBasic_of_isSolitary solitary
  cases cs with
  | nil => exact normalize_singleton basic
  | cons d rest =>
      cases high : isBasic d with
      | true =>
          have cut := normalize_append_cons high [c] rest
          rwa [normalize_singleton basic] at cut
      | false =>
          obtain ⟨cluster, others, found⟩ := exists_clusters_cons d rest
          have joined : clusters (c :: d :: rest) = (c :: d :: cluster) :: others := by
            rw [clusters, found]
            simp [high]
          rw [normalize, normalize, joined, found, List.flatMap_cons, List.flatMap_cons,
            normalizeCluster_cons_of_isSolitary solitary high]
          rfl

/-- The text in front of a solitary character and the text behind it are normalized each on its own.
    -/
theorem normalize_append_solitary {c : Char} (solitary : isSolitary c = true)
    (before behind : List Char) :
    normalize (before ++ c :: behind) = normalize before ++ c :: normalize behind := by
  rw [normalize_append_cons (isBasic_of_isSolitary solitary),
    normalize_cons_of_isSolitary solitary]

/-- Normalization brings in no solitary character. -/
theorem mem_of_mem_normalize {d : Char} {cs : List Char} (solitary : isSolitary d = true)
    (member : d ∈ normalize cs) : d ∈ cs := by
  obtain ⟨cluster, held, member⟩ := List.mem_flatMap.mp member
  rw [← flatten_clusters cs]
  exact List.mem_flatten.mpr ⟨cluster, held, mem_of_mem_normalizeCluster solitary member⟩

/-- A text of basic characters is its own normal form. -/
theorem normalize_eq_self {cs : List Char} (basic : ∀ c ∈ cs, isBasic c = true) :
    normalize cs = cs := by
  induction cs with
  | nil => rfl
  | cons c rest ih =>
      have first := basic c List.mem_cons_self
      have others := ih fun d member => basic d (List.mem_cons_of_mem c member)
      cases rest with
      | nil => exact normalize_singleton first
      | cons d rest =>
          have second := basic d (List.mem_cons_of_mem c List.mem_cons_self)
          have cut := normalize_append_cons second [c] rest
          rwa [normalize_singleton first, others] at cut

/-- Normalization form C keeps texts of ASCII characters. -/
theorem keepsAscii : NormalForm.KeepsAscii := by
  intro cs ascii
  apply normalize_eq_self
  intro c member
  exact decide_eq_true (Nat.lt_trans (ascii c member) (by decide))

/-- Normalization form C acts on each line on its own, for line ends are solitary. -/
theorem actsOnLines : NormalForm.ActsOnLines where
  nil := normalize_nil
  append_cons c lineEnd before behind := by
    rcases lineEnd with rfl | rfl
    · exact normalize_append_solitary rfl before behind
    · exact normalize_append_solitary rfl before behind
  newline_mem _ member := mem_of_mem_normalize rfl member

end QuantumAssembler.Unicode
