import Sluice.LatencyHeap
import Sluice.Pool.Standings

/-! Selection of the fastest backend, one request at a time.

Healthy backends wait in a heap under the latency they were filed with, unhealthy ones in a list;
a backend out for a request is in neither. Filing looks at the standing of that moment and at
nothing else, so a standing that changes later leaves the entry stale until it is filed again. -/
namespace Sluice

structure Partition (n : Nat) where
  healthy : LatencyHeap (Fin n)
  unhealthy : List (Fin n)
deriving Repr

namespace Partition
variable {n : Nat}

def empty : Partition n :=
  ⟨.empty, []⟩

/-- Files a backend by its standing. -/
def file (s : Standings n) (p : Partition n) (b : Fin n) : Partition n :=
  if s.isHealthy b then { p with healthy := p.healthy.push ⟨s.latency b, b⟩ }
  else { p with unhealthy := p.unhealthy ++ [b] }

/-- Files backends one after another. -/
def fileAll (s : Standings n) (p : Partition n) (bs : List (Fin n)) : Partition n :=
  bs.foldl (file s) p

/-- The backends that are filed: the heap in array order, then the list. -/
def members (p : Partition n) : List (Fin n) :=
  p.healthy.items ++ p.unhealthy

/-- All backends of the pool, filed in their order. -/
def ofStandings (s : Standings n) : Partition n :=
  fileAll s empty (List.finRange n)

/-- Files all members again. -/
def reclassify (s : Standings n) (p : Partition n) : Partition n :=
  fileAll s empty p.members

/-- Takes the fastest backend out. With the heap empty, a backend missing from the list is out for
a request, so the pool is busy rather than down. -/
def checkOut (p : Partition n) : Except SelectionError (Fin n × Partition n) :=
  match p.healthy.pop? with
  | some (e, rest) => .ok (e.item, { p with healthy := rest })
  | none =>
    .error (if p.unhealthy.length < n then .allBackendsBusy else .noHealthyBackends)

end Partition
end Sluice
