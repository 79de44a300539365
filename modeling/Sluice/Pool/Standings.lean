import Sluice.Health

/-! What is on record about the backends of a pool.

A pool of `n` backends never grows or shrinks; its backends are the positions below `n`. Only their
standings change, each replaced whole by an outcome. -/
namespace Sluice

abbrev Standings (n : Nat) := Vector Standing n

namespace Standings
variable {n : Nat}

/-- All backends as they are before the first probe. -/
def fresh (n : Nat) : Standings n :=
  Vector.replicate n .fresh

def isHealthy (s : Standings n) (b : Fin n) : Bool :=
  (s.get b).health.isHealthy

def latency (s : Standings n) (b : Fin n) : Nat :=
  (s.get b).latency

/-- The only way a standing changes. -/
def record (s : Standings n) (b : Fin n) (o : Outcome) : Standings n :=
  s.set b (.ofOutcome o) b.isLt

@[simp] theorem record_same (s : Standings n) (b : Fin n) (o : Outcome) :
    (s.record b o).get b = Standing.ofOutcome o :=
  Vector.getElem_set_self b.isLt

theorem record_other {s : Standings n} {b c : Fin n} (o : Outcome) (h : c ≠ b) :
    (s.record b o).get c = s.get c :=
  Vector.getElem_set_ne b.isLt c.isLt fun e => h (Fin.ext e.symm)

end Standings

/-- Why no backend could be selected. -/
inductive SelectionError where
  | noHealthyBackends
  | allBackendsBusy
deriving DecidableEq, Repr

def SelectionError.message : SelectionError → String
  | noHealthyBackends => "No healthy backends available"
  | allBackendsBusy => "All healthy backends are busy"

end Sluice
