import Sluice.Call
import Sluice.Config.Check
import Sluice.Pool.Basic

/-! The balancer: a pool, the addresses of its backends, and the limits of the calls to them.

A request is dispatched at most once. A backend is selected for it, the request is forwarded there,
and the outcome is recorded before the lease is released. The success of the backend is passed on,
and everything else becomes an answer of the balancer's own. A request that goes away before it is
answered releases its lease and records nothing. -/
namespace Sluice

structure Balancer (n : Nat) where
  backends : Vector Url n
  limits : Call.Limits
  probePath : String
  pool : Pool n

namespace Balancer
variable {n : Nat}

def fresh (strategy : Strategy) (backends : Vector Url n) (limits : Call.Limits)
    (probePath : String) :
    Balancer n :=
  ⟨backends, limits, probePath, .fresh strategy n⟩

/-! ### One request -/

/-- The lease for a request; where none can be given, nothing changes. -/
def lease (b : Balancer n) : Except SelectionError (Lease n × Balancer n) :=
  b.pool.select.map fun (l, pool) => (l, { b with pool })

/-- Forwards a request to the backend of its lease. -/
def call (b : Balancer n) (net : Network) (l : Lease n) (r : Http.Request) :
    Except Call.Error Http.Response × Duration :=
  Call.forward b.limits net b.backends[l.backend] r

/-- The response for the client, and what it says about the backend. -/
def judge : Except Call.Error Http.Response → Http.Response × Health
  | .ok r => if r.status.success then (r, .healthy) else (.unavailable, .unhealthy)
  | .error _ => (.unavailable, .unhealthy)

/-- Ends a request with the result of its call. -/
def complete (b : Balancer n) (l : Lease n) (result : Except Call.Error Http.Response)
    (latency : Duration) : Http.Response × Balancer n :=
  let (response, health) := judge result
  (response, { b with pool := (b.pool.record l.backend ⟨health, latency⟩).release l })

/-- Ends a request whose client has gone. -/
def cancel (b : Balancer n) (l : Lease n) : Balancer n :=
  { b with pool := b.pool.release l }

/-- A request that nothing interrupts. -/
def dispatch (b : Balancer n) (net : Network) (r : Http.Request) : Http.Response × Balancer n :=
  match b.lease with
  | .error e => (.ofSelectionError e, b)
  | .ok (l, b) =>
    let (result, latency) := b.call net l r
    b.complete l result latency

/-! ### Probes -/

/-- A probe is judged like a request: a response by its status, and no response is unhealthy. -/
def judgeProbe : Except Call.Error Status → Health
  | .ok status => .ofStatus status
  | .error _ => .unhealthy

def probe (b : Balancer n) (net : Network) (path : String) (k : Fin n) :
    Except Call.Error Status × Duration :=
  Call.probe b.limits net (b.backends.get k) path

def probeOutcome (b : Balancer n) (net : Network) (path : String) (k : Fin n) : Outcome :=
  let (result, latency) := b.probe net path k
  ⟨judgeProbe result, latency⟩

/-- Probes one backend and puts the outcome on record; the filing stays as it is. -/
def checkHealth (b : Balancer n) (net : Network) (path : String) (k : Fin n) :
    Health × Balancer n :=
  let o := b.probeOutcome net path k
  (o.health, { b with pool := b.pool.record k o })

/-- One sweep over the pool. -/
def sweep (b : Balancer n) (net : Network) : Tally × Balancer n :=
  let (tally, pool) := b.pool.sweep (b.probeOutcome net b.probePath)
  (tally, { b with pool })

/-- Puts an outcome on record and files the pool again. -/
def set (b : Balancer n) (k : Fin n) (o : Outcome) : Balancer n :=
  { b with pool := (b.pool.record k o).reclassify }

end Balancer

/-! ### From a configuration -/

/-- A balancer over the backends of a configuration, in their order. -/
structure Assembly where
  size : Nat
  balancer : Balancer size

/-- Builds a balancer. A configuration with problems builds none. -/
def Assembly.ofConfig (c : Config) : Except (List Config.Problem) Assembly := do
  Config.validate c
  let urls ← (c.balancer.backends.mapM Config.backendUrl).mapError ([·])
  let limits : Call.Limits := ⟨.ofSecs c.healthCheck.timeoutSecs, .ofSecs c.forwarding.timeoutSecs⟩
  return ⟨urls.length, .fresh c.balancer.strategy ⟨urls.toArray, by simp⟩ limits c.healthCheck.path⟩

end Sluice
