/-! Tables over code points, kept as text.

A table is a few lines of rows between blanks. A row `41-5a:61` gives the code points from `41` to
`5a` the value `61`; a row may name a single code point, and several values are set apart by dots.
All numbers are hexadecimal. -/
namespace Sluice.Text

structure CodeTable.Row where
  low : Nat
  high : Nat
  values : List Nat
deriving DecidableEq, Repr

/-- Rows in ascending order. -/
structure CodeTable where
  rows : Array CodeTable.Row

namespace CodeTable

def digit (c : Char) : Nat :=
  if c ≤ '9' then c.toNat - '0'.toNat else c.toNat - 'a'.toNat + 10

def number (s : List Char) : Nat :=
  s.foldl (fun n c => n * 16 + digit c) 0

def Row.ofChars (s : List Char) : Row :=
  let span := s.takeWhile (· ≠ ':')
  let low := span.takeWhile (· ≠ '-')
  let high := (span.dropWhile (· ≠ '-')).drop 1
  let values := (s.dropWhile (· ≠ ':')).drop 1
  { low := number low
    high := number (if high.isEmpty then low else high)
    values := if values.isEmpty then [] else (values.splitOn '.').map number }

def ofLines (lines : List String) : CodeTable :=
  ⟨(lines.flatMap fun line => (line.toList.splitOn ' ').map Row.ofChars).toArray⟩

/-- The row for a code point. -/
def row? (t : CodeTable) (n : Nat) : Option Row :=
  t.rows.find? fun r => r.low ≤ n && n ≤ r.high

def contains (t : CodeTable) (n : Nat) : Bool :=
  (t.row? n).isSome

/-- The first value for a code point. -/
def value? (t : CodeTable) (n : Nat) : Option Nat :=
  (t.row? n).bind (·.values.head?)

theorem row?_mem {t : CodeTable} {n : Nat} {r : Row} (h : t.row? n = some r) :
    r ∈ t.rows ∧ r.low ≤ n ∧ n ≤ r.high := by
  have := Array.find?_some h
  simp only [Bool.and_eq_true, decide_eq_true_eq] at this
  exact ⟨Array.mem_of_find?_eq_some h, this⟩

end CodeTable
end Sluice.Text
