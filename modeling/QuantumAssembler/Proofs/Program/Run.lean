import QuantumAssembler.Program
import QuantumAssembler.Proofs.Machine.Standard
import QuantumAssembler.Proofs.Text.Lines
import QuantumAssembler.Unicode.Normalization

/-!
Module: QuantumAssembler.Proofs.Program.Run
Purpose: A run is the fold of its lines. It succeeds exactly if all lines that hold an instruction
  can be carried out in order; else it stops at the first one that cannot, with the computer that
  the lines in front of it leave. Running a text in two parts, cut between lines, is running it
  whole.
Main exports: holdsInstruction, CarriesOut, FailsOn, runLines_ok_iff, runLines_error_iff,
  runLines_append, Run.later, runLines_later, runSource_append
-/

namespace QuantumAssembler

/-! ### What lines do -/

/-- Whether a line holds an instruction: trimmed, it is not empty and does not start with a number
    sign. -/
def holdsInstruction (line : List Char) : Bool :=
  decide (Text.trim line ≠ [] ∧ (Text.trim line).head? ≠ some '#')

/-- The lines that are passed over are those that hold no instruction. -/
theorem isIgnored_eq (line : List Char) : isIgnored line = !holdsInstruction line := by
  unfold isIgnored holdsInstruction
  cases Text.trim line with
  | nil => rfl
  | cons c rest => by_cases comment : c = '#' <;> simp [comment]

section Reading

variable [NormalForm]

/-- The instruction that a line is read as, or why it is none. -/
def readInstruction (line : List Char) : Except SyntaxError Instruction :=
  (readLine (String.ofList line)).1

/-- The lines that hold an instruction are read as `is`; executed in order on `c`, each of these
    succeeds, and they end in `d`. -/
structure CarriesOut (c : Computer) (lines : List (List Char)) (is : List Instruction)
    (d : Computer) : Prop where
  reads : (lines.filter holdsInstruction).map readInstruction = is.map .ok
  succeeds : ∀ e ∈ c.executions is, e.outcome = .ok ()
  ends : d = is.foldl (fun c i => (c.execute i).computer) c

/-- The line cannot be carried out on `c`, for the given reason. -/
inductive FailsOn (c : Computer) (line : List Char) : RunFault → Prop where
  | unreadable {e : SyntaxError} (read : readInstruction line = .error e) :
      FailsOn c line (.unreadable e)
  | failed {i : Instruction} {failure : MachineFailure} (read : readInstruction line = .ok i)
      (executed : (c.execute i).outcome = .error failure) :
      FailsOn c line (.failed failure)

namespace CarriesOut

variable {c d : Computer} {line : List Char} {rest : List (List Char)} {i : Instruction}
  {is : List Instruction}

/-- As many instructions are executed as lines hold one. -/
theorem length {row : List (List Char)} (carries : CarriesOut c row is d) :
    is.length = (row.filter holdsInstruction).length := by
  have lengths := congrArg List.length carries.reads
  simpa using lengths.symm

theorem nil_iff : CarriesOut c [] is d ↔ is = [] ∧ d = c := by
  constructor
  · intro carried
    obtain ⟨reads, -, ends⟩ := carried
    obtain rfl : is = [] := by simpa using reads.symm
    exact ⟨rfl, ends⟩
  · rintro ⟨rfl, rfl⟩
    exact ⟨rfl, by simp [Computer.executions], rfl⟩

/-- A line without an instruction does nothing. -/
theorem cons_iff_of_not_holds (ignored : holdsInstruction line = false) :
    CarriesOut c (line :: rest) is d ↔ CarriesOut c rest is d := by
  have same : (line :: rest).filter holdsInstruction = rest.filter holdsInstruction :=
    List.filter_cons_of_neg (by simp [ignored])
  constructor
  · intro carried
    obtain ⟨reads, succeeds, ends⟩ := carried
    exact ⟨same ▸ reads, succeeds, ends⟩
  · intro carried
    obtain ⟨reads, succeeds, ends⟩ := carried
    exact ⟨same.symm ▸ reads, succeeds, ends⟩

/-- A line with an instruction is carried out by executing this. -/
theorem cons_iff_of_holds (holds : holdsInstruction line = true) :
    CarriesOut c (line :: rest) is d ↔
      ∃ i others, is = i :: others ∧ readInstruction line = .ok i ∧
        (c.execute i).outcome = .ok () ∧ CarriesOut (c.execute i).computer rest others d := by
  have split : (line :: rest).filter holdsInstruction = line :: rest.filter holdsInstruction :=
    List.filter_cons_of_pos holds
  constructor
  · intro carried
    obtain ⟨reads, succeeds, ends⟩ := carried
    rw [split] at reads
    cases is with
    | nil => cases reads
    | cons i others =>
        obtain ⟨read, reads⟩ := List.cons.inj reads
        refine ⟨i, others, rfl, read, succeeds _ List.mem_cons_self, reads, ?_, ends⟩
        intro e member
        exact succeeds e (List.mem_cons_of_mem _ member)
  · intro carried
    obtain ⟨i, others, rfl, read, executed, reads, succeeds, ends⟩ := carried
    refine ⟨?_, ?_, ends⟩
    · rw [split, List.map_cons, read, reads]
      rfl
    · intro e member
      rcases List.mem_cons.mp member with rfl | member
      · exact executed
      · exact succeeds e member

end CarriesOut

/-- A line holds no instruction, or one that is carried out, or it fails. -/
theorem line_cases (c : Computer) (line : List Char) :
    holdsInstruction line = false ∨
      holdsInstruction line = true ∧
        ((∃ i, readInstruction line = .ok i ∧ (c.execute i).outcome = .ok ()) ∨
          ∃ fault, FailsOn c line fault) := by
  cases holds : holdsInstruction line with
  | false => exact .inl rfl
  | true =>
      refine .inr ⟨rfl, ?_⟩
      cases read : readInstruction line with
      | error e => exact .inr ⟨_, .unreadable read⟩
      | ok i =>
          cases executed : (c.execute i).outcome with
          | error failure => exact .inr ⟨_, .failed read executed⟩
          | ok done => exact .inl ⟨i, rfl, executed⟩

/-! ### One line of a run -/

section OneLine

variable {c : Computer} {line : List Char}

theorem runLines_of_not_holds (ignored : holdsInstruction line = false) (executed number : Nat)
    (rest : List (List Char)) :
    runLines c executed number (line :: rest) = runLines c executed (number + 1) rest := by
  have passed : isIgnored line = true := by simp [isIgnored_eq, ignored]
  rw [runLines, if_pos passed]

/-- What happens when a line is read and then the events that executing it has. -/
def lineEffects (number : Nat) (line : List Char) (events : List Event) : List Effect :=
  readingEffects number (String.ofList line) (readLine (String.ofList line)).2 ++
    events.map .event

/-- A line that is carried out is followed by the run of the other lines. -/
theorem runLines_of_executed (holds : holdsInstruction line = true) {i : Instruction}
    (read : readInstruction line = .ok i) (done : (c.execute i).outcome = .ok ())
    (executed number : Nat) (rest : List (List Char)) :
    runLines c executed number (line :: rest) =
      (runLines (c.execute i).computer (executed + 1) (number + 1) rest).after
        (lineEffects number line (c.execute i).events) := by
  have kept : ¬ isIgnored line = true := by simp [isIgnored_eq, holds]
  unfold readInstruction at read
  simp [runLines, kept, read, done, lineEffects]

/-- A line that fails ends the run, whatever follows it. A standard computer is left as it was. -/
theorem exists_runLines_of_failsOn (holds : holdsInstruction line = true) {fault : RunFault}
    (fails : FailsOn c line fault) :
    ∃ d events, (∀ trace, c.IsStandard trace → d = c) ∧
      ∀ executed number rest, runLines c executed number (line :: rest) =
        ⟨d, lineEffects number line events, .error ⟨number, String.ofList line, fault⟩⟩ := by
  have kept : ¬ isIgnored line = true := by simp [isIgnored_eq, holds]
  cases fails with
  | unreadable read =>
      refine ⟨c, [], fun _ _ => rfl, fun executed number rest => ?_⟩
      unfold readInstruction at read
      simp [runLines, kept, read, lineEffects]
  | @failed i _ read failed =>
      refine ⟨(c.execute i).computer, (c.execute i).events, ?_, fun executed number rest => ?_⟩
      · intro trace standard
        exact standard.execute_computer_of_error failed
      · unfold readInstruction at read
        simp [runLines, kept, read, failed, lineEffects]

end OneLine

/-! ### Runs in parts -/

/-- An effect as it is with more lines in front. -/
def Effect.later (lines : Nat) : Effect → Effect
  | .event e => .event e
  | .warning line d => .warning (line + lines) d

/-- A run as it is with more instructions executed before it, and more lines in front. -/
def Run.later (executed lines : Nat) (r : Run) : Run where
  computer := r.computer
  trail := r.trail.map (Effect.later lines)
  outcome :=
    match r.outcome with
    | .ok count => .ok (count + executed)
    | .error e => .error { e with line := e.line + lines }

omit [NormalForm] in
theorem Run.later_after (executed lines : Nat) (effects : List Effect) (r : Run) :
    (r.after effects).later executed lines =
      (r.later executed lines).after (effects.map (Effect.later lines)) := by
  simp [later, after]

theorem lineEffects_later (number lines : Nat) (line : List Char) (events : List Event) :
    (lineEffects number line events).map (Effect.later lines) =
      lineEffects (number + lines) line events := by
  simp [lineEffects, readingEffects, Effect.later, Function.comp_def]

/-- Executed instructions and lines in front shift a run and do nothing else to it. -/
theorem runLines_later (c : Computer) (executed number more lines : Nat)
    (row : List (List Char)) :
    runLines c (executed + more) (number + lines) row =
      (runLines c executed number row).later more lines := by
  induction row generalizing c executed number with
  | nil => rfl
  | cons line rest ih =>
      obtain ignored | ⟨holds, ⟨i, read, done⟩ | ⟨fault, fails⟩⟩ := line_cases c line
      · rw [runLines_of_not_holds ignored, runLines_of_not_holds ignored, ← ih,
          Nat.add_right_comm]
      · rw [runLines_of_executed holds read done, runLines_of_executed holds read done,
          Run.later_after, lineEffects_later, ← ih, Nat.add_right_comm executed,
          Nat.add_right_comm number]
      · obtain ⟨d, events, -, ends⟩ := exists_runLines_of_failsOn holds fails
        rw [ends, ends]
        simp [Run.later, lineEffects_later]

/-- The run of appended lines goes on where the run of the first ones ends, unless this fails. -/
theorem runLines_append (c : Computer) (executed number : Nat) (first second : List (List Char)) :
    runLines c executed number (first ++ second) =
      match (runLines c executed number first).outcome with
      | .ok count =>
        (runLines (runLines c executed number first).computer count (number + first.length)
          second).after (runLines c executed number first).trail
      | .error _ => runLines c executed number first := by
  induction first generalizing c executed number with
  | nil => rfl
  | cons line rest ih =>
      have place : number + (line :: rest).length = number + 1 + rest.length := by
        simp only [List.length_cons]
        omega
      obtain ignored | ⟨holds, ⟨i, read, done⟩ | ⟨fault, fails⟩⟩ := line_cases c line
      · rw [List.cons_append, runLines_of_not_holds ignored, runLines_of_not_holds ignored, ih,
          place]
      · rw [List.cons_append, runLines_of_executed holds read done,
          runLines_of_executed holds read done, ih, place]
        cases ran : runLines (c.execute i).computer (executed + 1) (number + 1) rest with
        | mk computer trail outcome =>
            cases outcome with
            | ok count => simp [Run.after]
            | error e => rfl
      · obtain ⟨d, events, -, ends⟩ := exists_runLines_of_failsOn holds fails
        rw [List.cons_append, ends, ends]

/-- A text that stops between two lines is run before what follows it. What follows runs on the
    computer that it leaves, if it does not fail. -/
theorem runSource_append (c : Computer) {a : String} (complete : Text.Complete a.toList)
    (b : String) :
    runSource c (a ++ b) =
      match (runSource c a).outcome with
      | .ok count =>
        ((runSource (runSource c a).computer b).later count (a.toList.count '\n')).after
          (runSource c a).trail
      | .error _ => runSource c a := by
  have cut : runSource c (a ++ b) =
      runLines c 0 1 (Text.lines a.toList ++ Text.lines b.toList) := by
    rw [runSource, String.toList_append, complete.lines_append]
  rw [cut, runLines_append]
  change (match (runSource c a).outcome with
    | .ok count =>
      (runLines (runSource c a).computer count (1 + (Text.lines a.toList).length)
        (Text.lines b.toList)).after (runSource c a).trail
    | .error _ => runSource c a) = _
  cases (runSource c a).outcome with
  | error e => rfl
  | ok count =>
      have shifted := runLines_later (runSource c a).computer 0 1 count
        (Text.lines a.toList).length (Text.lines b.toList)
      rw [Nat.zero_add, complete.length_lines] at shifted
      simp only [complete.length_lines, shifted]
      rfl

/-! ### Whole runs -/

/-- A run succeeds exactly if its lines can be carried out, and ends where these end. -/
theorem runLines_ok_iff {c d : Computer} {executed number count : Nat}
    {row : List (List Char)} :
    (runLines c executed number row).outcome = .ok count ∧
        (runLines c executed number row).computer = d ↔
      ∃ is, CarriesOut c row is d ∧ count = executed + is.length := by
  induction row generalizing c executed number with
  | nil =>
      simp only [CarriesOut.nil_iff, runLines, Except.ok.injEq]
      constructor
      · rintro ⟨rfl, rfl⟩
        exact ⟨[], ⟨rfl, rfl⟩, rfl⟩
      · intro carried
        obtain ⟨is, ⟨rfl, rfl⟩, rfl⟩ := carried
        exact ⟨rfl, rfl⟩
  | cons line rest ih =>
      obtain ignored | ⟨holds, ⟨i, read, done⟩ | ⟨fault, fails⟩⟩ := line_cases c line
      · rw [runLines_of_not_holds ignored, ih]
        simp only [CarriesOut.cons_iff_of_not_holds ignored]
      · rw [runLines_of_executed holds read done]
        refine Iff.trans ih ?_
        simp only [CarriesOut.cons_iff_of_holds holds]
        constructor
        · intro carried
          obtain ⟨others, carries, rfl⟩ := carried
          exact ⟨i :: others, ⟨i, others, rfl, read, done, carries⟩, by simp; omega⟩
        · intro carried
          obtain ⟨is, ⟨j, others, rfl, reread, -, carries⟩, rfl⟩ := carried
          obtain rfl : i = j := by simpa [read] using reread
          exact ⟨others, carries, by simp; omega⟩
      -- Neither side holds: the run stops here, and a line that fails is not carried out.
      · obtain ⟨e, events, -, ends⟩ := exists_runLines_of_failsOn holds fails
        simp only [ends, CarriesOut.cons_iff_of_holds holds]
        constructor
        · rintro ⟨none, -⟩
          cases none
        · intro carried
          obtain ⟨is, ⟨j, others, rfl, read, done, -⟩, -⟩ := carried
          cases fails with
          | unreadable unread => simp [read] at unread
          | failed reread failed =>
              obtain rfl : j = _ := by simpa [read] using reread
              simp [done] at failed

/-- Lines that are carried out leave a standard computer standard. -/
theorem CarriesOut.isStandard {c d : Computer} {trace : Bool} {row : List (List Char)}
    {is : List Instruction} (carries : CarriesOut c row is d) (standard : c.IsStandard trace) :
    d.IsStandard trace := by
  rw [carries.ends]
  clear carries
  induction is generalizing c with
  | nil => exact standard
  | cons i rest ih => exact ih (standard.execute i)

/-- A run of a standard computer that fails stops at the first line that cannot be carried out, with
    the computer that the lines in front of it leave. -/
theorem failsOn_of_runLines_error {c : Computer} {trace : Bool} (standard : c.IsStandard trace)
    {executed number : Nat} {row : List (List Char)} {e : RunError}
    (stopped : (runLines c executed number row).outcome = .error e) :
    ∃ before line behind is, row = before ++ line :: behind ∧
      CarriesOut c before is (runLines c executed number row).computer ∧
      holdsInstruction line = true ∧
      FailsOn (runLines c executed number row).computer line e.fault ∧
      e.line = number + before.length ∧ e.text = String.ofList line := by
  induction row generalizing c executed number with
  | nil => cases stopped
  | cons line rest ih =>
      obtain ignored | ⟨holds, ⟨i, read, done⟩ | ⟨fault, fails⟩⟩ := line_cases c line
      · rw [runLines_of_not_holds ignored] at stopped ⊢
        obtain ⟨before, last, behind, is, rfl, carries, lastHolds, fails, place, text⟩ :=
          ih standard stopped
        refine ⟨line :: before, last, behind, is, rfl, ?_, lastHolds, fails, ?_, text⟩
        · exact (CarriesOut.cons_iff_of_not_holds ignored).mpr carries
        · simp only [List.length_cons]
          omega
      · rw [runLines_of_executed holds read done] at stopped ⊢
        obtain ⟨before, last, behind, is, rfl, carries, lastHolds, fails, place, text⟩ :=
          ih (standard.execute i) stopped
        refine ⟨line :: before, last, behind, i :: is, rfl, ?_, lastHolds, fails, ?_, text⟩
        · exact (CarriesOut.cons_iff_of_holds holds).mpr ⟨i, is, rfl, read, done, carries⟩
        · simp only [List.length_cons]
          omega
      · obtain ⟨d, events, same, ends⟩ := exists_runLines_of_failsOn holds fails
        obtain rfl := same trace standard
        rw [ends] at stopped ⊢
        cases stopped
        exact ⟨[], line, rest, [], rfl, CarriesOut.nil_iff.mpr ⟨rfl, rfl⟩, holds, fails, rfl, rfl⟩

/-- A run of a standard computer fails exactly if some line cannot be carried out after the lines in
    front of it. -/
theorem runLines_error_iff {c d : Computer} {trace : Bool} (standard : c.IsStandard trace)
    {executed number : Nat} {row : List (List Char)} {e : RunError} :
    (runLines c executed number row).outcome = .error e ∧
        (runLines c executed number row).computer = d ↔
      ∃ before line behind is, row = before ++ line :: behind ∧ CarriesOut c before is d ∧
        holdsInstruction line = true ∧ FailsOn d line e.fault ∧
        e.line = number + before.length ∧ e.text = String.ofList line := by
  constructor
  · rintro ⟨stopped, rfl⟩
    exact failsOn_of_runLines_error standard stopped
  · intro stop
    obtain ⟨before, line, behind, is, rfl, carries, holds, fails, place, text⟩ := stop
    -- The run of the lines in front succeeds, so the whole run goes on with the line that fails.
    have ran : (runLines c executed number before).outcome = .ok (executed + is.length) ∧
        (runLines c executed number before).computer = d := runLines_ok_iff.mpr ⟨is, carries, rfl⟩
    obtain ⟨done, rfl⟩ := ran
    obtain ⟨d, events, same, ends⟩ := exists_runLines_of_failsOn holds fails
    obtain rfl := same trace (carries.isStandard standard)
    rw [runLines_append, done]
    simp only [ends, Run.after]
    rw [← place, ← text]
    exact ⟨rfl, trivial⟩

/-- A run of a standard computer that fails at a line leaves the computer as running the text in
    front of that line does. There are as many line feeds in that text as lines. -/
theorem runSource_front_of_error {c : Computer} {trace : Bool} (standard : c.IsStandard trace)
    {source : String} {e : RunError} (stopped : (runSource c source).outcome = .error e) :
    ∃ front behind, source = front ++ behind ∧ Text.Complete front.toList ∧
      e.line = front.toList.count '\n' + 1 ∧
      (Text.lines behind.toList).head? = some e.text.toList ∧
      (∃ count, (runSource c front).outcome = .ok count) ∧
      (runSource c front).computer = (runSource c source).computer := by
  obtain ⟨before, line, behind, is, whole, carries, -, -, place, text⟩ :=
    failsOn_of_runLines_error standard stopped
  obtain ⟨front, rest, cut, complete, rfl, last⟩ :=
    Text.exists_of_lines_eq_append whole (List.cons_ne_nil line behind)
  have carried : CarriesOut c (Text.lines (String.ofList front).toList) is
      (runSource c source).computer := by
    rw [String.toList_ofList]
    exact carries
  obtain ⟨done, same⟩ := runLines_ok_iff.mpr ⟨is, carried, rfl⟩
  refine ⟨String.ofList front, String.ofList rest, ?_, ?_, ?_, ?_, ⟨_, done⟩, same⟩
  · rw [← String.ofList_append, ← cut, String.ofList_toList]
  · rwa [String.toList_ofList]
  · rw [String.toList_ofList, ← complete.length_lines, place, Nat.add_comm]
  · rw [String.toList_ofList, last, text, String.toList_ofList]
    rfl

/-- The runs of a reachable computer. A run succeeds exactly if all lines that hold an instruction
    can be carried out in order; it counts them and ends in the computer that they leave. It fails
    exactly if some line cannot be carried out after the lines in front of it: it names that line
    and its number, and leaves the computer as the lines in front of it do. A text that stops
    between two lines may be run apart from what follows it. -/
theorem runSource_folds_lines {side count : Nat} {trace : Bool} {c : Computer}
    (reached : Computer.Reachable side count trace c) :
    (∀ source k d, (runSource c source).outcome = .ok k ∧ (runSource c source).computer = d ↔
      k = ((Text.lines source.toList).filter holdsInstruction).length ∧
        ∃ is, CarriesOut c (Text.lines source.toList) is d) ∧
    (∀ source e d, (runSource c source).outcome = .error e ∧ (runSource c source).computer = d ↔
      ∃ before line behind is, Text.lines source.toList = before ++ line :: behind ∧
        CarriesOut c before is d ∧ holdsInstruction line = true ∧ FailsOn d line e.fault ∧
        e.line = before.length + 1 ∧ e.text = String.ofList line) ∧
    (∀ source e, (runSource c source).outcome = .error e →
      ∃ front behind, source = front ++ behind ∧ Text.Complete front.toList ∧
        e.line = front.toList.count '\n' + 1 ∧
        (Text.lines behind.toList).head? = some e.text.toList ∧
        (∃ k, (runSource c front).outcome = .ok k) ∧
        (runSource c front).computer = (runSource c source).computer) ∧
    (∀ a b : String, Text.Complete a.toList →
      runSource c (a ++ b) =
        match (runSource c a).outcome with
        | .ok k =>
          ((runSource (runSource c a).computer b).later k (a.toList.count '\n')).after
            (runSource c a).trail
        | .error _ => runSource c a) := by
  have standard := reached.isStandard
  refine ⟨?_, ?_, ?_, ?_⟩
  · intro source k d
    refine runLines_ok_iff.trans ⟨?_, ?_⟩
    · intro carried
      obtain ⟨is, carries, rfl⟩ := carried
      exact ⟨by rw [Nat.zero_add, carries.length], is, carries⟩
    · intro carried
      obtain ⟨rfl, is, carries⟩ := carried
      exact ⟨is, carries, by rw [Nat.zero_add, carries.length]⟩
  · intro source e d
    have stops := @runLines_error_iff _ c d trace standard 0 1 (Text.lines source.toList) e
    simp only [Nat.add_comm 1] at stops
    exact stops
  · intro source e stopped
    exact runSource_front_of_error standard stopped
  · intro a b complete
    exact runSource_append c complete b

end Reading

/-- A comment and a blank line are passed over; the line after them, a lone gate, is the third. -/
theorem runSource_folds_lines_lone_gate :
    Computer.Reachable 2 1 false ⟨.fresh 2 1, .standard false⟩ ∧
      (runSource ⟨.fresh 2 1, .standard false⟩ "# gates\n\nH\n").outcome =
        .error ⟨3, "H", .unreadable ⟨.noInstruction (.keyword .hadamard), .start⟩⟩ ∧
      (runSource ⟨.fresh 2 1, .standard false⟩ "# gates\n\nH\n").computer =
        ⟨.fresh 2 1, .standard false⟩ := by
  have reached : Computer.Reachable 2 1 false ⟨.fresh 2 1, .standard false⟩ :=
    .start (Computer.standard_eq_ok (by decide) 1 false)
  have read : readInstruction ['H'] = .error ⟨.noInstruction (.keyword .hadamard), .start⟩ := by
    decide +kernel
  obtain ⟨-, stops, -⟩ := runSource_folds_lines reached
  refine ⟨reached, (stops _ _ _).mpr
    ⟨["# gates".toList, []], ['H'], [], [], by decide, ⟨by rfl, ?_, rfl⟩, by decide,
      .unreadable read, rfl, by decide⟩⟩
  simp [Computer.executions]

end QuantumAssembler
