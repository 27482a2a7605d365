import QuantumAssembler.Console.Session
import QuantumAssembler.Proofs.Language.Margins
import QuantumAssembler.Proofs.Language.WrittenForm
import QuantumAssembler.Proofs.Program.Run
import QuantumAssembler.Proofs.Unicode.Composition

/-!
Module: QuantumAssembler.Proofs.Console.Agreement
Purpose: A conversation and a run agree. A conversation is told each line with its line end and trims
  it, a run reads the line as it stands; both read the same instruction. No word that asks for
  something is an instruction. So whatever a run carries out, a conversation on an equal computer
  executes as well, and where a run stops, the conversation stands as the run left off. This is so
  for every normal form that keeps the margins of texts and leaves the words alone.
Main exports: Request.instruction?, Request.executed, Session.last, Session.last_eq,
  Session.afterLines_eq_last, instruction?_ofLine, Fits, executed_of_carriesOut,
  conversation_agrees_with_run
-/

namespace QuantumAssembler.Console

namespace Request

/-- The instruction that a request executes, if it is read as one. -/
def instruction? [NormalForm] : Request → Option Instruction
  | .execute source => (readLine source).1.toOption
  | _ => none

/-- The instructions that requests execute, up to the one that ends the conversation. -/
def executed [NormalForm] (requests : List Request) : List Instruction :=
  (requests.takeWhile (· ≠ .leave)).filterMap instruction?

end Request

namespace Session

variable [NormalForm]

/-- The session when requests were answered, or when one of them ended it. -/
def last (s : Session) : List Request → Session
  | [] => s
  | request :: rest =>
    match (s.respond request).1 with
    | none => s
    | some after => after.last rest

/-- A request but the last changes nothing besides the computer. -/
theorem respond_of_ne_leave (s : Session) {request : Request} (stays : request ≠ .leave) :
    (s.respond request).1 =
      some { s with computer :=
        match request.instruction? with
        | none => s.computer
        | some i => (s.computer.execute i).computer } := by
  cases request with
  | leave => exact absurd rfl stays
  | execute source =>
      simp only [respond, execute, Request.instruction?]
      cases (readLine source).1 with
      | error e => rfl
      | ok i => rfl
  | nothing | help | showStatus | showRegisters | showVariables => rfl

/-- A session ends with the computer that the executed instructions leave. -/
theorem last_eq (s : Session) (requests : List Request) :
    s.last requests = { s with computer :=
      (Request.executed requests).foldl (fun c i => (c.execute i).computer) s.computer } := by
  induction requests generalizing s with
  | nil => rfl
  | cons request rest ih =>
      by_cases leaves : request = .leave
      · subst leaves
        rfl
      · have goesOn : Request.executed (request :: rest) =
            request.instruction?.toList ++ Request.executed rest := by
          rw [Request.executed, List.takeWhile_cons_of_pos (by simpa using leaves),
            List.filterMap_cons]
          cases request.instruction? with
          | none => rfl
          | some i => rfl
        rw [last, s.respond_of_ne_leave leaves, goesOn]
        simp only [ih]
        cases request.instruction? with
        | none => rfl
        | some i => rfl

/-- Requests that do not end the conversation are answered before those behind them. -/
theorem last_append (s : Session) {front : List Request} (stays : .leave ∉ front)
    (back : List Request) : s.last (front ++ back) = (s.last front).last back := by
  induction front generalizing s with
  | nil => rfl
  | cons request rest ih =>
      rw [List.mem_cons, not_or] at stays
      rw [List.cons_append, last, last, s.respond_of_ne_leave (Ne.symm stays.1)]
      exact ih _ stays.2

/-- A session that no request ends is still held. -/
theorem afterLines_eq_last (s : Session) {lines : List (List Char)}
    (stays : .leave ∉ lines.map Request.ofLine) :
    s.afterLines lines = some (s.last (lines.map Request.ofLine)) := by
  induction lines generalizing s with
  | nil => rfl
  | cons line rest ih =>
      rw [List.map_cons, List.mem_cons, not_or] at stays
      have goesOn := s.respond_of_ne_leave (Ne.symm stays.1)
      rw [afterLines, step, List.map_cons, last, goesOn, Option.bind_some]
      exact ih _ stays.2

end Session

/-! ### What lines ask for -/

namespace Request

/-- White space at the ends of a line makes no difference. -/
theorem ofLine_eq_of_trim (line other : List Char) (same : Text.trim line = Text.trim other) :
    ofLine line = ofLine other := by
  rw [ofLine, ofLine, isIgnored, isIgnored, same]

theorem ofLine_of_not_holds {line : List Char} (ignored : holdsInstruction line = false) :
    ofLine line = .nothing := by
  rw [ofLine, if_pos (by simp [isIgnored_eq, ignored])]

/-- A word that asks for something is of ASCII characters. It is neither blank nor a comment, and its
    tokens are not those of an instruction. -/
theorem of_mem_words : ∀ entry ∈ words,
    (entry.1.toList ≠ [] ∧ entry.1.toList.head? ≠ some '#') ∧
      entry.1.toList.all (fun c => decide (Text.IsAscii c)) = true ∧
      (readTokens (tokenize entry.1.toList).1).toOption = none := by
  decide +kernel

section Reading

variable [NormalForm]

/-- What a word asks for executes no instruction. -/
theorem instruction?_of_mem_words {entry : String × Request} (member : entry ∈ words) :
    entry.2.instruction? = none := by
  simp only [words, List.mem_cons, List.not_mem_nil, or_false] at member
  rcases member with rfl | rfl | rfl | rfl | rfl | rfl | rfl
  all_goals rfl

/-- A word that asks for something is not read as an instruction. -/
theorem readLine_of_mem_words (ascii : NormalForm.KeepsAscii) {entry : String × Request}
    (member : entry ∈ words) : (readLine entry.1).1.toOption = none := by
  obtain ⟨-, all, unread⟩ := of_mem_words entry member
  have plain := tokenizeSource_of_isAscii ascii fun c inside =>
    of_decide_eq_true (List.all_eq_true.mp all c inside)
  rw [readLine, plain]
  exact unread

theorem instruction?_of_lookup (ascii : NormalForm.KeepsAscii) {source : String} {request : Request}
    (found : words.lookup source = some request) :
    request.instruction? = (readLine source).1.toOption := by
  obtain ⟨front, behind, whole, -⟩ := List.lookup_eq_some_iff.mp found
  have member : (source, request) ∈ words := by
    rw [whole]
    exact List.mem_append_right front List.mem_cons_self
  exact (instruction?_of_mem_words member).trans (readLine_of_mem_words ascii member).symm

end Reading

end Request

section Reading

variable [NormalForm]

/-- Trimmed, a line is read as the instruction that it is read as untrimmed, or as none. -/
theorem toOption_readLine_trim (keeps : NormalForm.KeepsMargins) (line : List Char) :
    (readLine (String.ofList (Text.trim line))).1.toOption = (readInstruction line).toOption := by
  cases read : readInstruction line with
  | ok i => rw [(readLine_trim keeps line i).mpr read]
  | error e =>
      cases trimmed : (readLine (String.ofList (Text.trim line))).1 with
      | error other => rfl
      | ok i =>
          have same : readInstruction line = .ok i := (readLine_trim keeps line i).mp trimmed
          rw [read] at same
          cases same

/-- A line is passed over or is read as an instruction. -/
def Fits (line : List Char) : Prop :=
  holdsInstruction line = true → ∃ i, readInstruction line = .ok i

theorem fits_of_carriesOut {c d : Computer} {lines : List (List Char)} {is : List Instruction}
    (carries : CarriesOut c lines is d) : ∀ line ∈ lines, Fits line := by
  intro line member holds
  have read := List.mem_map_of_mem (f := readInstruction) (List.mem_filter.mpr ⟨member, holds⟩)
  rw [carries.reads] at read
  obtain ⟨i, -, same⟩ := List.mem_map.mp read
  exact ⟨i, same.symm⟩

section Kept

variable (ascii : NormalForm.KeepsAscii) (keeps : NormalForm.KeepsMargins)

include ascii keeps

/-- A line that holds an instruction executes what a run reads in it, if that is an instruction. -/
theorem instruction?_ofLine {line : List Char} (holds : holdsInstruction line = true) :
    (Request.ofLine line).instruction? = (readInstruction line).toOption := by
  have counts : isIgnored line = false := by simp [isIgnored_eq, holds]
  rw [Request.ofLine, if_neg (by simp [counts]), ← toOption_readLine_trim keeps]
  simp only
  cases found : Request.words.lookup (String.ofList (Text.trim line)) with
  | none => rfl
  | some request => exact Request.instruction?_of_lookup ascii found

/-- The instructions that lines ask to execute are those that a run reads in them. -/
theorem filterMap_instruction? (lines : List (List Char)) :
    (lines.map Request.ofLine).filterMap Request.instruction? =
      ((lines.filter holdsInstruction).map readInstruction).filterMap Except.toOption := by
  induction lines with
  | nil => rfl
  | cons line rest ih =>
      rw [List.map_cons, List.filterMap_cons, ih]
      cases holds : holdsInstruction line with
      | false =>
          rw [Request.ofLine_of_not_holds holds, List.filter_cons_of_neg (by simp [holds])]
          rfl
      | true =>
          rw [instruction?_ofLine ascii keeps holds, List.filter_cons_of_pos holds, List.map_cons,
            List.filterMap_cons]

/-- A line that fits holds no word that asks for something. -/
theorem Fits.not_mem_words {line : List Char} (fits : Fits line) :
    String.ofList (Text.trim line) ∉ Request.words.map Prod.fst := by
  intro asks
  obtain ⟨entry, member, same⟩ := List.mem_map.mp asks
  have unread := Request.readLine_of_mem_words ascii member
  obtain ⟨holds, -⟩ := Request.of_mem_words entry member
  rw [same, String.toList_ofList] at holds
  obtain ⟨i, read⟩ := fits (decide_eq_true holds)
  rw [same, toOption_readLine_trim keeps, read] at unread
  cases unread

theorem Fits.ne_leave {line : List Char} (fits : Fits line) : Request.ofLine line ≠ .leave := by
  intro leaves
  cases holds : holdsInstruction line with
  | false =>
      rw [Request.ofLine_of_not_holds holds] at leaves
      cases leaves
  | true =>
      obtain ⟨i, read⟩ := fits holds
      have executes := instruction?_ofLine ascii keeps holds
      rw [read, leaves] at executes
      cases executes

theorem leave_not_mem {lines : List (List Char)} (fit : ∀ line ∈ lines, Fits line) :
    .leave ∉ lines.map Request.ofLine := by
  intro member
  obtain ⟨line, inside, leaves⟩ := List.mem_map.mp member
  exact (fit line inside).ne_leave ascii keeps leaves

/-! ### Conversations and runs -/

section Carried

variable {c d : Computer} {lines : List (List Char)} {is : List Instruction}

/-- A conversation executes what a run carries out, and nothing else. -/
theorem executed_of_carriesOut (carries : CarriesOut c lines is d) :
    Request.executed (lines.map Request.ofLine) = is := by
  have stays : (lines.map Request.ofLine).takeWhile (· ≠ .leave) = lines.map Request.ofLine := by
    apply List.takeWhile_eq_self_iff.mpr
    intro request member
    apply decide_eq_true
    rintro rfl
    exact leave_not_mem ascii keeps (fits_of_carriesOut carries) member
  have all : (is.map Except.ok : List (Except SyntaxError Instruction)).filterMap
      Except.toOption = is := by
    rw [List.filterMap_map]
    exact List.filterMap_some
  rw [Request.executed, stays, filterMap_instruction? ascii keeps, carries.reads, all]

/-- A session that is told lines that a run carries out ends with the computer of the run. -/
theorem last_of_carriesOut (carries : CarriesOut c lines is d) (name : String) (filter : LogFilter) :
    Session.last ⟨c, name, filter⟩ (lines.map Request.ofLine) = ⟨d, name, filter⟩ := by
  rw [Session.last_eq, executed_of_carriesOut ascii keeps carries, carries.ends]

end Carried

/-- A line that a run cannot carry out leaves the computer of a conversation as it is. -/
theorem last_of_failsOn {c : Computer} {trace : Bool} (standard : c.IsStandard trace)
    {line : List Char} {fault : RunFault} (holds : holdsInstruction line = true)
    (fails : FailsOn c line fault) (name : String) (filter : LogFilter) :
    Session.last ⟨c, name, filter⟩ [Request.ofLine line] = ⟨c, name, filter⟩ := by
  by_cases leaves : Request.ofLine line = .leave
  · rw [leaves]
    rfl
  · rw [Session.last, Session.respond_of_ne_leave _ leaves, instruction?_ofLine ascii keeps holds]
    cases fails with
    | unreadable read =>
        rw [read]
        rfl
    | failed read executed =>
        rw [read]
        simp only [Except.toOption, standard.execute_computer_of_error executed]
        rfl

end Kept

/-- Take two equal computers with the standard handlers, run a text on the first and tell a
    conversation with the second every line of the text. If the run succeeds, then no line holds a
    word that asks for something, the conversation executes the same instructions, and it goes on
    with the computer of the run. If the run stops at a line, then the conversation has the computer
    of the run once it was told that line. The normal form has to keep the margins of texts, and the
    words that ask for something as they are. -/
theorem conversation_agrees_with_run (ascii : NormalForm.KeepsAscii)
    (keeps : NormalForm.KeepsMargins) {side : Nat} (positive : 0 < side) (count : Nat)
    (trace : Bool) (name : String) (filter : LogFilter) :
    ∃ c, Computer.standard side count trace = .ok c ∧ ∀ source : String,
      (∀ k, (runSource c source).outcome = .ok k →
        (∀ line ∈ Text.fedLines source.toList,
          String.ofList (Text.trim line) ∉ Request.words.map Prod.fst) ∧
        CarriesOut c (Text.lines source.toList)
          (Request.executed ((Text.fedLines source.toList).map Request.ofLine))
          (runSource c source).computer ∧
        k = (Request.executed ((Text.fedLines source.toList).map Request.ofLine)).length ∧
        Session.afterLines ⟨c, name, filter⟩ (Text.fedLines source.toList) =
          some ⟨(runSource c source).computer, name, filter⟩) ∧
      ∀ e, (runSource c source).outcome = .error e →
        Session.last ⟨c, name, filter⟩
            (((Text.fedLines source.toList).take e.line).map Request.ofLine) =
          ⟨(runSource c source).computer, name, filter⟩ := by
  refine ⟨_, Computer.standard_eq_ok positive count trace, ?_⟩
  intro source
  have standard : Computer.IsStandard trace ⟨.fresh side count, .standard trace⟩ := rfl
  have requests := Text.map_fedLines Request.ofLine_eq_of_trim source.toList
  constructor
  · intro k done
    obtain ⟨is, carries, counted⟩ := runLines_ok_iff.mp ⟨done, rfl⟩
    have executed := executed_of_carriesOut ascii keeps carries
    rw [requests, executed]
    refine ⟨?_, carries, by omega, ?_⟩
    · intro line member
      have same := Text.map_fedLines (fun _ _ => congrArg String.ofList) source.toList
      have listed := List.mem_map_of_mem (f := fun line => String.ofList (Text.trim line)) member
      rw [same] at listed
      obtain ⟨other, inside, equal⟩ := List.mem_map.mp listed
      rw [← equal]
      exact (fits_of_carriesOut carries other inside).not_mem_words ascii keeps
    · have stays := leave_not_mem ascii keeps (fits_of_carriesOut carries)
      rw [← requests] at stays
      rw [Session.afterLines_eq_last _ stays, requests, last_of_carriesOut ascii keeps carries]
      rfl
  · intro e stopped
    obtain ⟨before, line, behind, is, whole, carries, holds, fails, place, -⟩ :=
      failsOn_of_runLines_error standard stopped
    have cut : (Text.lines source.toList).take e.line = before ++ [line] := by
      have length : e.line = (before ++ [line]).length := by simpa [Nat.add_comm] using place
      rw [whole, List.append_cons, length, List.take_left]
    rw [List.map_take, requests, ← List.map_take, cut, List.map_append,
      Session.last_append _ (leave_not_mem ascii keeps (fits_of_carriesOut carries)),
      last_of_carriesOut ascii keeps carries]
    exact last_of_failsOn ascii keeps (carries.isStandard standard) holds fails name filter

end Reading

/-- White space around an instruction makes no difference to either. A word that ends a conversation
    stops a run at its line. -/
theorem conversation_agrees_with_run_spaced :
    NormalForm.KeepsAscii ∧ NormalForm.KeepsMargins ∧ ∃ c, Computer.standard 1 1 false = .ok c ∧
      (runSource c "  INITIALIZE R0\r\n").outcome = .ok 1 ∧
      Session.afterLines ⟨c, "q", ⟨[], none⟩⟩ ["  INITIALIZE R0\r\n".toList] =
        some ⟨(runSource c "  INITIALIZE R0\r\n").computer, "q", ⟨[], none⟩⟩ ∧
      Session.last ⟨c, "q", ⟨[], none⟩⟩ [Request.ofLine "exit\n".toList] =
        ⟨(runSource c "exit\nMEASURE").computer, "q", ⟨[], none⟩⟩ := by
  have positive : 0 < 1 := by decide
  obtain ⟨c, built, agrees⟩ := conversation_agrees_with_run Unicode.keepsAscii
    Unicode.keepsMargins positive 1 false "q" ⟨[], none⟩
  have same := Computer.standard_eq_ok positive 1 false
  rw [built] at same
  cases same
  have done : (runSource ⟨.fresh 1 1, .standard false⟩ "  INITIALIZE R0\r\n").outcome = .ok 1 := by
    decide +kernel
  have stopped : (runSource ⟨.fresh 1 1, .standard false⟩ "exit\nMEASURE").outcome =
      .error ⟨1, "exit", .unreadable ⟨.endedEarly .assignment, ⟨1, 5⟩⟩⟩ := by
    decide +kernel
  refine ⟨Unicode.keepsAscii, Unicode.keepsMargins, _, built, done, ?_, ?_⟩
  · obtain ⟨-, -, -, held⟩ := (agrees "  INITIALIZE R0\r\n").1 1 done
    exact held
  · exact (agrees "exit\nMEASURE").2 _ stopped

end QuantumAssembler.Console
