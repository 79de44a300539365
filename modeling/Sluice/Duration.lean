/-! Spans of time.

A span is a whole number of nanoseconds. It is shown in the largest unit in which its whole part is
not zero, with the fraction exact and its trailing zeros dropped; latencies are kept in whole
microseconds of 64 bits. -/
namespace Sluice

structure Duration where
  nanos : Nat
deriving DecidableEq, Repr

namespace Duration

/-- Nanoseconds beyond a second carry over. -/
def ofParts (secs nanos : Nat) : Duration :=
  ⟨secs * Nat.pow 10 9 + nanos⟩

def ofSecs (secs : Nat) : Duration :=
  ofParts secs 0

/-- The greatest latency that is told apart from longer ones. -/
def maxMicros : Nat :=
  Nat.pow 2 64 - 1

/-- Whole microseconds, what is left over dropped, capped at `maxMicros`. -/
def micros (d : Duration) : Nat :=
  min (d.nanos / 1000) maxMicros

/-- The units a span is shown in, the largest first, each with its power of ten. -/
def units : List (Nat × String) :=
  [(9, "s"), (6, "ms"), (3, "µs"), (0, "ns")]

/-- The last `places` decimal digits of `n`, without trailing zeros. -/
def fraction (places n : Nat) : List Char :=
  let digits := (List.range places).map fun i => Nat.digitChar (n / Nat.pow 10 i % 10)
  (digits.dropWhile (· = '0')).reverse

/-- The span in one unit. -/
def inUnit (d : Duration) (places : Nat) (unit : String) : String :=
  let shown := fraction places (d.nanos % Nat.pow 10 places)
  let point := if shown.isEmpty then "" else "."
  toString (d.nanos / Nat.pow 10 places) ++ point ++ String.ofList shown ++ unit

def text (d : Duration) : String :=
  match units.find? fun (places, _) => Nat.pow 10 places ≤ d.nanos with
  | some (places, unit) => d.inUnit places unit
  | none => d.inUnit 0 "ns"

theorem micros_le (d : Duration) : d.micros ≤ maxMicros :=
  Nat.min_le_right _ _

end Duration
end Sluice
