import QuantumAssembler.Language.Segment

/-!
Module: QuantumAssembler.Language.TokenStream
Purpose: The tokens of a text, handed out one by one or all at once, with the diagnostics noted on
  the way. A stream holds the segments still ahead, each with its place. A rejected segment adds a
  diagnostic and is passed over; when no segment is left, the end token is handed out once.
Main exports: Diagnostic, placed, TokenStream, TokenStream.ofText, TokenStream.next,
  TokenStream.drain, tokenize
-/

namespace QuantumAssembler

/-- A rejected stretch of text and the place of its first character. -/
structure Diagnostic where
  fault : Fault
  position : Position
deriving DecidableEq, Repr

namespace Diagnostic

/-- A diagnostic as it is reported. -/
def text (d : Diagnostic) : String :=
  let what := match d.fault with
    | .illegalCharacter c => "Illegal character '" ++ c.toString ++ "'"
    | .numberTooLarge literal => "Invalid number literal '" ++ String.ofList literal ++ "'"
  what ++ " at " ++ d.position.text

end Diagnostic

/-- Gives each segment of a row the place of its first character; the row begins at `p`. -/
def placed (p : Position) : List Segment → List (Position × Segment)
  | [] => []
  | s :: rest => (p, s) :: placed (p.after s.text) rest

/-- The token that a placed segment is, if it is one. -/
def tokenAt? : Position × Segment → Option Token
  | (p, .lexeme kind spelling) => some ⟨kind, String.ofList spelling, p⟩
  | _ => none

/-- The diagnostic that a placed segment gives rise to, if it does. -/
def diagnosticAt? : Position × Segment → Option Diagnostic
  | (p, .rejected fault) => some ⟨fault, p⟩
  | _ => none

/-- A text that is partly read: the segments ahead, the place behind the whole text, the diagnostics
    noted so far, and whether the end token was handed out. -/
structure TokenStream where
  ahead : List (Position × Segment)
  finish : Position
  diagnostics : List Diagnostic
  finished : Bool
deriving DecidableEq, Repr

namespace TokenStream

/-- The stream of a text of which nothing is read. -/
def ofText (cs : List Char) : TokenStream :=
  ⟨placed .start (segments cs), Position.start.after cs, [], false⟩

/-- Reads on through the segments `ahead` up to the next token, or to the end. -/
def advance (finish : Position) (noted : List Diagnostic) :
    List (Position × Segment) → Token × TokenStream
  | [] => (.atEnd finish, ⟨[], finish, noted, true⟩)
  | (p, .lexeme kind spelling) :: rest =>
    (⟨kind, String.ofList spelling, p⟩, ⟨rest, finish, noted, false⟩)
  | (p, .rejected fault) :: rest => advance finish (noted ++ [⟨fault, p⟩]) rest
  | (_, .blank _) :: rest => advance finish noted rest

/-- The next token, or nothing once the end token was handed out. -/
def next (s : TokenStream) : Option Token × TokenStream :=
  if s.finished then (none, s)
  else
    let (t, after) := advance s.finish s.diagnostics s.ahead
    (some t, after)

/-- How much a stream still has to hand out. -/
def outstanding (s : TokenStream) : Nat :=
  if s.finished then 0 else s.ahead.length + 1

theorem outstanding_advance (finish : Position) (noted : List Diagnostic)
    (ahead : List (Position × Segment)) :
    (advance finish noted ahead).2.outstanding < ahead.length + 1 := by
  fun_induction advance finish noted ahead with
  | case1 => simp [outstanding]
  | case2 => simp [outstanding]
  | case3 _ _ _ _ ih => simp only [List.length_cons]; omega
  | case4 _ _ _ _ ih => simp only [List.length_cons]; omega

/-- Each token handed out leaves less to hand out. -/
theorem outstanding_next {s after : TokenStream} {t : Token} (h : s.next = (some t, after)) :
    after.outstanding < s.outstanding := by
  unfold next at h
  split at h
  · cases h
  · rename_i unfinished
    obtain ⟨_, rfl⟩ := Prod.mk.inj h
    simpa [outstanding, unfinished] using outstanding_advance s.finish s.diagnostics s.ahead

/-- Hands out all tokens that are left. -/
def drain (s : TokenStream) : List Token × TokenStream :=
  match _step : s.next with
  | (none, after) => ([], after)
  | (some t, after) =>
    let (others, exhausted) := after.drain
    (t :: others, exhausted)
termination_by s.outstanding
decreasing_by exact outstanding_next ‹_›

end TokenStream

/-- All tokens of a text, the end token last, and its diagnostics in order. -/
def tokenize (cs : List Char) : List Token × List Diagnostic :=
  let (tokens, s) := (TokenStream.ofText cs).drain
  (tokens, s.diagnostics)

end QuantumAssembler
