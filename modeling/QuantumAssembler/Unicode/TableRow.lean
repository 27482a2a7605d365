/-!
Module: QuantumAssembler.Unicode.TableRow
Purpose: The written form of the tables of character classes. A row is a line of hexadecimal numbers
  with single spaces between them. A number may stand for a span of code points, written with a
  hyphen between its two ends.
Main exports: hexValue, endsOf, spansOf, liesIn
-/

namespace QuantumAssembler.Unicode

/-- The value of one hexadecimal digit; other characters count as nought. -/
def hexDigit (c : Char) : Nat :=
  if c.isDigit then c.toNat - '0'.toNat
  else if 'A' ≤ c ∧ c ≤ 'F' then c.toNat - 'A'.toNat + 10
  else 0

/-- The value of a row of hexadecimal digits. -/
def hexValue (word : String) : Nat :=
  word.toList.foldl (fun value c => 16 * value + hexDigit c) 0

/-- The two ends of the span that a word stands for. -/
def endsOf (word : String) : Nat × Nat :=
  match (word.splitOn "-").map hexValue with
  | [first, last] => (first, last)
  | [point] => (point, point)
  | _ => (0, 0)

/-- The spans in rows, by their ends. -/
def spansOf (rows : List String) : Array (Nat × Nat) :=
  (rows.flatMap fun row => (row.splitOn " ").map endsOf).toArray

/-- Whether a character lies in one of the spans. -/
def liesIn (spans : Array (Nat × Nat)) (c : Char) : Bool :=
  spans.any fun (first, last) => first ≤ c.toNat && c.toNat ≤ last

end QuantumAssembler.Unicode
