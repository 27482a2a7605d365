import QuantumAssembler.Proofs.Language.WrittenForm
import QuantumAssembler.Proofs.Program.Run
import QuantumAssembler.Proofs.Text.Margins

/-!
Module: QuantumAssembler.Proofs.Program.Listing
Purpose: Programs that are written out from instructions: one instruction a line, one space between
  the tokens. Such a line is read as its instruction and a listing has these lines, so running the
  listing of well-formed instructions executes them in order.
Main exports: Instruction.line, Instruction.writtenAs_line, holdsInstruction_line, listing,
  lines_listing, runSource_listing
-/

namespace QuantumAssembler

/-- The spellings of tokens, with one space between them. -/
def spaced : List TokenKind → String
  | [] => ""
  | [k] => k.spelling
  | k :: l :: ks => k.spelling ++ " " ++ spaced (l :: ks)

/-- An instruction on one line. -/
def Instruction.line (i : Instruction) : String :=
  spaced i.sentence

/-- A program of one instruction a line. -/
def listing : List Instruction → String
  | [] => ""
  | [i] => i.line
  | i :: j :: rest => i.line ++ "\n" ++ listing (j :: rest)

/-! ### One line -/

theorem laidOut_spaced (k : TokenKind) (ks : List TokenKind) :
    LaidOut (k :: ks) (spaced (k :: ks)).toList := by
  induction ks generalizing k with
  | nil => simpa [spaced] using @LaidOut.last k [] (by simp [IsGap])
  | cons l ks ih =>
      rw [spaced, String.toList_append, String.toList_append]
      exact .next k (by simp) (by simp [IsGap]) (ih l)

/-- A token is spelled without blanks, for a blank would cut the spelling. -/
theorem isBlank_of_mem_spelling {k : TokenKind} (wellFormed : k.WellFormed) :
    ∀ c ∈ k.spelling.toList, isBlank c = false := by
  intro c member
  by_contra blank
  obtain ⟨before, behind, cut⟩ := List.mem_iff_append.mp member
  have whole := segments_spelling wellFormed
  rw [cut, segments_append_cons (by simpa using blank)] at whole
  have separator : Segment.blank c ∈ [k.segment] := by
    rw [← whole]
    simp
  simp [TokenKind.segment] at separator

theorem mem_spaced {ks : List TokenKind} {c : Char} (member : c ∈ (spaced ks).toList) :
    c = ' ' ∨ ∃ k ∈ ks, c ∈ k.spelling.toList := by
  fun_induction spaced ks with
  | case1 => cases member
  | case2 k => exact .inr ⟨k, List.mem_cons_self, member⟩
  | case3 k l ks ih =>
      rw [String.toList_append, String.toList_append] at member
      rcases List.mem_append.mp member with front | others
      · rcases List.mem_append.mp front with first | space
        · exact .inr ⟨k, List.mem_cons_self, first⟩
        · exact .inl (List.mem_singleton.mp space)
      · rcases ih others with space | ⟨held, inside, spelled⟩
        · exact .inl space
        · exact .inr ⟨held, List.mem_cons_of_mem k inside, spelled⟩

theorem isWhiteSpace_of_isLetter {c : Char} (letter : IsLetter c) :
    Text.isWhiteSpace c = false := by
  have range : 65 ≤ c.toNat ∧ c.toNat ≤ 122 := by
    rcases letter with rfl | ⟨low, high⟩ | ⟨low, high⟩
    · decide
    · exact ⟨low, Nat.le_trans high (by decide)⟩
    · exact ⟨Nat.le_trans (by decide) low, high⟩
  simp only [Text.isWhiteSpace]
  simp
  omega

/-- A line that begins with a letter holds an instruction. -/
theorem holdsInstruction_of_isLetter {c : Char} (letter : IsLetter c) (rest : List Char) :
    holdsInstruction (c :: rest) = true := by
  have solid := isWhiteSpace_of_isLetter letter
  have noComment : c ≠ '#' := by
    rintro rfl
    exact absurd letter (by decide)
  obtain ⟨front, back, whole, white, whiteBehind⟩ := Text.exists_trim (c :: rest)
  have kept : ∃ others, Text.trim (c :: rest) = c :: others := by
    cases front with
    | cons d front =>
        obtain ⟨rfl, -⟩ := List.cons.inj whole
        simp [white c List.mem_cons_self] at solid
    | nil =>
        cases trimmed : Text.trim (c :: rest) with
        | nil =>
            rw [trimmed] at whole
            obtain rfl : c :: rest = back := whole
            simp [whiteBehind c List.mem_cons_self] at solid
        | cons d others =>
            rw [trimmed] at whole
            obtain ⟨rfl, -⟩ := List.cons.inj whole
            exact ⟨others, rfl⟩
  obtain ⟨others, kept⟩ := kept
  simp [holdsInstruction, kept, noComment]

namespace Instruction

variable {i : Instruction}

/-- Sentences begin with a reserved word or the name of a variable. -/
theorem exists_sentence (wellFormed : i.WellFormed) :
    ∃ k ks, i.sentence = k :: ks ∧ IsIdentifier k.spelling.toList := by
  cases i with
  | load register bits =>
      cases bits with
      | none => exact ⟨_, _, rfl, isIdentifier_word _⟩
      | some digits => exact ⟨_, _, rfl, isIdentifier_word _⟩
  | select | apply | measure => exact ⟨_, _, rfl, isIdentifier_word _⟩
  | concat | tensor | inverse => exact ⟨_, _, rfl, wellFormed.1.identifier⟩

/-- The line of an instruction is one of its written forms. -/
theorem writtenAs_line (wellFormed : i.WellFormed) : i.WrittenAs i.line := by
  obtain ⟨k, ks, spelled, -⟩ := exists_sentence wellFormed
  refine ⟨[], i.line.toList, by simp [IsGap], ?_, rfl⟩
  rw [line, spelled]
  exact laidOut_spaced k ks

/-- The line of an instruction begins with a letter. -/
theorem exists_line (wellFormed : i.WellFormed) :
    ∃ c rest, i.line.toList = c :: rest ∧ IsLetter c := by
  obtain ⟨k, ks, spelled, identifier⟩ := exists_sentence wellFormed
  rw [line, spelled]
  cases first : k.spelling.toList with
  | nil =>
      rw [first] at identifier
      cases identifier
  | cons c rest =>
      rw [first] at identifier
      cases ks with
      | nil => exact ⟨c, rest, by rw [spaced, first], identifier.1⟩
      | cons l ks =>
          refine ⟨c, rest ++ " ".toList ++ (spaced (l :: ks)).toList, ?_, identifier.1⟩
          rw [spaced, String.toList_append, String.toList_append, first, List.cons_append,
            List.cons_append]

/-- The line of an instruction holds nothing of a line end. -/
theorem not_mem_line (wellFormed : i.WellFormed) : '\n' ∉ i.line.toList ∧ '\r' ∉ i.line.toList := by
  have solid : ∀ c, isBlank c = true → c ≠ ' ' → c ∉ i.line.toList := by
    intro c blank noSpace member
    rcases mem_spaced member with space | ⟨k, inside, spelled⟩
    · exact noSpace space
    · have none := isBlank_of_mem_spelling (i.wellFormed_iff.mp wellFormed k inside) c spelled
      simp [none] at blank
  exact ⟨solid _ rfl (by decide), solid _ rfl (by decide)⟩

end Instruction

/-! ### Whole listings -/

/-- The lines of a listing are those of its instructions. -/
theorem lines_listing {is : List Instruction} (wellFormed : ∀ i ∈ is, i.WellFormed) :
    Text.lines (listing is).toList = is.map fun i => i.line.toList := by
  fun_induction listing is with
  | case1 => rfl
  | case2 i =>
      have well := wellFormed i List.mem_cons_self
      obtain ⟨c, rest, spelled, -⟩ := Instruction.exists_line well
      exact Text.lines_of_not_mem (by simp [spelled]) (Instruction.not_mem_line well).1
  | case3 i j rest ih =>
      obtain ⟨noFeed, noReturn⟩ := Instruction.not_mem_line (wellFormed i List.mem_cons_self)
      have complete : Text.Complete (i.line.toList ++ ['\n']) := .inr ⟨_, rfl⟩
      have whole : (i.line ++ "\n" ++ listing (j :: rest)).toList =
          i.line.toList ++ ['\n'] ++ (listing (j :: rest)).toList := by
        simp
      rw [whole, complete.lines_append, Text.lines_append_newline noFeed noReturn,
        ih fun k member => wellFormed k (List.mem_cons_of_mem i member)]
      rfl

/-- The lines of well-formed instructions are carried out if these can be executed in order. -/
theorem carriesOut_lines [NormalForm] (ascii : NormalForm.KeepsAscii) {c : Computer}
    {is : List Instruction} (wellFormed : ∀ i ∈ is, i.WellFormed)
    (succeeds : ∀ e ∈ c.executions is, e.outcome = .ok ()) :
    CarriesOut c (is.map fun i => i.line.toList) is
      (is.foldl (fun c i => (c.execute i).computer) c) := by
  refine ⟨?_, succeeds, rfl⟩
  have all : ∀ line ∈ is.map fun i => i.line.toList, holdsInstruction line = true := by
    intro line member
    obtain ⟨i, inside, rfl⟩ := List.mem_map.mp member
    obtain ⟨c, rest, spelled, letter⟩ := Instruction.exists_line (wellFormed i inside)
    rw [spelled]
    exact holdsInstruction_of_isLetter letter rest
  rw [List.filter_eq_self.mpr all, List.map_map]
  apply List.map_congr_left
  intro i member
  have well := wellFormed i member
  have read := readLine_of_writtenAs ascii well (Instruction.writtenAs_line well)
  simp [readInstruction, read]

/-- Running a listing of instructions that can be executed in order executes them all. -/
theorem runSource_listing [NormalForm] (ascii : NormalForm.KeepsAscii) {c : Computer}
    {is : List Instruction} (wellFormed : ∀ i ∈ is, i.WellFormed)
    (succeeds : ∀ e ∈ c.executions is, e.outcome = .ok ()) :
    (runSource c (listing is)).outcome = .ok is.length ∧
      (runSource c (listing is)).computer =
        is.foldl (fun c i => (c.execute i).computer) c := by
  rw [runSource, lines_listing wellFormed]
  have carried := carriesOut_lines ascii wellFormed succeeds
  exact runLines_ok_iff.mpr ⟨is, carried, (Nat.zero_add _).symm⟩

end QuantumAssembler
