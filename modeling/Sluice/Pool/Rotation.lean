import Sluice.Pool.Standings

/-! Selection in turn.

A cursor points at the next position to try. A selection scans forward from it for one lap at most,
takes the first healthy backend and leaves the cursor just past it; unhealthy backends are skipped
without using up a turn. -/
namespace Sluice.Rotation
variable {n : Nat}

/-- The positions in the order in which they are tried, from the cursor around to it again. -/
def lap (cursor : Nat) (h : 0 < n) : List (Fin n) :=
  (List.range n).map fun i => ⟨(cursor + i) % n, Nat.mod_lt _ h⟩

/-- The first healthy backend of the lap. -/
def scan (s : Standings n) (cursor : Nat) : Option (Fin n) :=
  if h : 0 < n then (lap cursor h).find? s.isHealthy else none

/-- The position after `b`, around the end. -/
def after (b : Fin n) : Nat :=
  (b.val + 1) % n

/-- The backend selected and the cursor behind it. -/
def select (s : Standings n) (cursor : Nat) : Except SelectionError (Fin n × Nat) :=
  match scan s cursor with
  | some b => .ok (b, after b)
  | none => .error .noHealthyBackends

theorem scan_isHealthy {s : Standings n} {cursor : Nat} {b : Fin n} (h : scan s cursor = some b) :
    s.isHealthy b = true := by
  unfold scan at h
  split at h
  · exact List.find?_some h
  · cases h

end Sluice.Rotation
