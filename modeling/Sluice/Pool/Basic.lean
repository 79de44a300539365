import Sluice.Pool.Partition
import Sluice.Pool.Rotation
import Sluice.Pool.Strategy

/-! A pool: the standings of its backends and the selector over them.

A selection hands out a lease. Under round robin the backend stays in rotation; under least response
it is out of the partition until the lease is released, and is then filed by the standing it has at
that moment, whether or not the request came to an end. A sweep takes a snapshot of the backends to
probe, records one outcome for each, and files everything present again. -/
namespace Sluice

inductive Selector (n : Nat) where
  | roundRobin (cursor : Nat)
  | leastResponse (partition : Partition n)
deriving Repr

/-- A selected backend. -/
inductive Lease (n : Nat) where
  | shared (backend : Fin n)
  | checkedOut (backend : Fin n)
deriving DecidableEq, Repr

def Lease.backend {n : Nat} : Lease n → Fin n
  | shared b => b
  | checkedOut b => b

/-- How many backends a sweep leaves healthy and unhealthy. -/
structure Tally where
  healthy : Nat
  unhealthy : Nat
deriving DecidableEq, Repr

structure Pool (n : Nat) where
  standings : Standings n
  selector : Selector n

namespace Pool
variable {n : Nat}

/-- A pool over backends in whatever standing they are. -/
def ofStandings (strategy : Strategy) (s : Standings n) : Pool n where
  standings := s
  selector := match strategy with
    | .roundRobin => .roundRobin 0
    | .leastResponse => .leastResponse (.ofStandings s)

def fresh (strategy : Strategy) (n : Nat) : Pool n :=
  ofStandings strategy (.fresh n)

def strategy (p : Pool n) : Strategy :=
  match p.selector with
  | .roundRobin _ => .roundRobin
  | .leastResponse _ => .leastResponse

/-! ### Requests -/

/-- The lease for the next request; where none can be given, nothing changes. -/
def select (p : Pool n) : Except SelectionError (Lease n × Pool n) :=
  match p.selector with
  | .roundRobin cursor =>
    (Rotation.select p.standings cursor).map fun (b, cursor) =>
      (.shared b, { p with selector := .roundRobin cursor })
  | .leastResponse q =>
    q.checkOut.map fun (b, q) => (.checkedOut b, { p with selector := .leastResponse q })

/-- Puts an outcome on record; the filing stays as it is. -/
def record (p : Pool n) (b : Fin n) (o : Outcome) : Pool n :=
  { p with standings := p.standings.record b o }

/-- Takes a lease back. -/
def release (p : Pool n) (l : Lease n) : Pool n :=
  match l, p.selector with
  | .checkedOut b, .leastResponse q =>
    { p with selector := .leastResponse (q.file p.standings b) }
  | _, _ => p

/-- Files everything present by its standing. -/
def reclassify (p : Pool n) : Pool n :=
  match p.selector with
  | .roundRobin _ => p
  | .leastResponse q => { p with selector := .leastResponse (q.reclassify p.standings) }

/-! ### Sweeps -/

/-- The backends to probe, in two rounds: all of them at once under round robin; the filed healthy
ones, then the unhealthy ones, under least response. -/
def snapshot (p : Pool n) : List (Fin n) × List (Fin n) :=
  match p.selector with
  | .roundRobin _ => (List.finRange n, [])
  | .leastResponse q => (q.healthy.items, q.unhealthy)

/-- Ends a sweep that found these results: everything present is filed again. Round robin counts
the results, least response what is filed. -/
def finishSweep (p : Pool n) (results : List Health) : Tally × Pool n :=
  match p.selector with
  | .roundRobin _ =>
    let healthy := results.countP Health.isHealthy
    (⟨healthy, results.length - healthy⟩, p)
  | .leastResponse q =>
    let q := q.reclassify p.standings
    (⟨q.healthy.size, q.unhealthy.length⟩, { p with selector := .leastResponse q })

/-- Puts the outcome of one probe after another on record. -/
def recordAll (p : Pool n) (probe : Fin n → Outcome) (bs : List (Fin n)) : Pool n :=
  bs.foldl (fun p b => p.record b (probe b)) p

/-- One sweep that nothing interrupts. -/
def sweep (p : Pool n) (probe : Fin n → Outcome) : Tally × Pool n :=
  let (front, back) := p.snapshot
  (p.recordAll probe (front ++ back)).finishSweep ((front ++ back).map fun b => (probe b).health)

end Pool
end Sluice
