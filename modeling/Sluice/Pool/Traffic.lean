import Sluice.Pool.Basic

/-! Everything that can happen to a pool, in any order.

Requests and sweeps run at the same time. What reaches the pool is a sequence of events: a lease is
given, an outcome is recorded on it, it is released; a sweep takes its snapshot, records the outcome
of one probe after another, files again. Leases and sweeps are numbered in the order in which they
begin, and keep their number. -/
namespace Sluice

/-- A sweep under way: the backends of its two rounds that have not answered yet, and the results
so far. The second round begins when the first is complete. -/
structure Sweep (n : Nat) where
  front : List (Fin n)
  back : List (Fin n)
  results : List Health
deriving Repr

namespace Sweep
variable {n : Nat}

/-- The probes under way. -/
def pending (s : Sweep n) : List (Fin n) :=
  if s.front.isEmpty then s.back else s.front

/-- Notes the result for one of the pending backends. -/
def note (s : Sweep n) (b : Fin n) (h : Health) : Sweep n :=
  if s.front.isEmpty then { s with back := s.back.erase b, results := s.results ++ [h] }
  else { s with front := s.front.erase b, results := s.results ++ [h] }

def done (s : Sweep n) : Bool :=
  s.front.isEmpty && s.back.isEmpty

end Sweep

/-- A pool with the leases and sweeps that were begun on it, by number; `none` once ended. -/
structure Traffic (n : Nat) where
  pool : Pool n
  leases : List (Option (Lease n))
  sweeps : List (Option (Sweep n))

namespace Traffic
variable {n : Nat}

inductive Event (n : Nat) where
  | select
  | report (lease : Nat) (outcome : Outcome)
  | release (lease : Nat)
  | record (backend : Fin n) (outcome : Outcome)
  | reclassify
  | sweepBegin
  | sweepProbe (sweep : Nat) (backend : Fin n) (outcome : Outcome)
  | sweepEnd (sweep : Nat)

inductive Answer (n : Nat) where
  | leased (number : Nat) (lease : Lease n)
  | refused (error : SelectionError)
  | recorded (health : Health)
  | released
  | reclassified
  | sweeping (number : Nat)
  | swept (tally : Tally)
  | noSuchLease
  | noSuchSweep
  | notPending
deriving DecidableEq, Repr

def ofPool (p : Pool n) : Traffic n :=
  ⟨p, [], []⟩

/-- The lease of this number, unless it was never given or has been released. -/
def lease? (t : Traffic n) (number : Nat) : Option (Lease n) :=
  (t.leases[number]?).join

def sweep? (t : Traffic n) (number : Nat) : Option (Sweep n) :=
  (t.sweeps[number]?).join

/-- The leases that are out. -/
def outstanding (t : Traffic n) : List (Lease n) :=
  t.leases.filterMap id

/-- The sweeps under way. -/
def underWay (t : Traffic n) : List (Sweep n) :=
  t.sweeps.filterMap id

/-- One event, and the answer to whoever caused it. -/
def step (t : Traffic n) : Event n → Answer n × Traffic n
  | .select =>
    match t.pool.select with
    | .ok (l, pool) =>
      (.leased t.leases.length l, { t with pool, leases := t.leases ++ [some l] })
    | .error e => (.refused e, t)
  | .report k o =>
    match t.lease? k with
    | some l => (.recorded o.health, { t with pool := t.pool.record l.backend o })
    | none => (.noSuchLease, t)
  | .release k =>
    match t.lease? k with
    | some l =>
      (.released, { t with pool := t.pool.release l, leases := t.leases.set k none })
    | none => (.noSuchLease, t)
  | .record b o => (.recorded o.health, { t with pool := t.pool.record b o })
  | .reclassify => (.reclassified, { t with pool := t.pool.reclassify })
  | .sweepBegin =>
    let (front, back) := t.pool.snapshot
    (.sweeping t.sweeps.length, { t with sweeps := t.sweeps ++ [some ⟨front, back, []⟩] })
  | .sweepProbe k b o =>
    match t.sweep? k with
    | some s =>
      if b ∈ s.pending then
        (.recorded o.health,
          { t with
            pool := t.pool.record b o
            sweeps := t.sweeps.set k (some (s.note b o.health)) })
      else (.notPending, t)
    | none => (.noSuchSweep, t)
  | .sweepEnd k =>
    match t.sweep? k with
    | some s =>
      if s.done then
        let (tally, pool) := t.pool.finishSweep s.results
        (.swept tally, { t with pool, sweeps := t.sweeps.set k none })
      else (.notPending, t)
    | none => (.noSuchSweep, t)

def next (t : Traffic n) (e : Event n) : Traffic n :=
  (t.step e).2

def run (t : Traffic n) : List (Event n) → Traffic n
  | [] => t
  | e :: rest => run (t.next e) rest

/-- The backend of a lease that is given. -/
def Answer.backend? : Answer n → Option (Fin n)
  | .leased _ l => some l.backend
  | _ => none

/-- The backends that a run hands out, in order. -/
def handedOut (t : Traffic n) : List (Event n) → List (Fin n)
  | [] => []
  | e :: rest => (t.step e).1.backend?.toList ++ handedOut (t.next e) rest

theorem run_append (t : Traffic n) (a b : List (Event n)) : run t (a ++ b) = run (run t a) b := by
  induction a generalizing t with
  | nil => rfl
  | cons e rest ih => exact ih _

theorem handedOut_append (t : Traffic n) (a b : List (Event n)) :
    handedOut t (a ++ b) = handedOut t a ++ handedOut (run t a) b := by
  induction a generalizing t with
  | nil => rfl
  | cons e rest ih =>
    show (t.step e).1.backend?.toList ++ handedOut (t.next e) (rest ++ b) = _
    rw [ih, ← List.append_assoc]
    rfl

end Traffic
end Sluice
