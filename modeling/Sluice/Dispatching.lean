import Sluice.Balancer
import Sluice.Pool.Traffic

/-! Requests under way over one pool, any number of them at a time.

A request is numbered when it arrives, and is given a lease or turned away at once. The request for
its backend is then sent off, the outcome of the call is put on record, and at last the lease is
released and the client answered. In between the other requests and the sweeps have their turns. A
client that goes away while the call is under way ends its request; nothing comes between the
recording and the answer that could end it. -/
namespace Sluice

/-- The event belongs to the request that holds a lease or asks for one. -/
def Traffic.Event.ofRequest {n : Nat} : Traffic.Event n → Bool
  | .select | .report _ _ | .release _ => true
  | _ => false

namespace Dispatching

/-- How far a request has come, with the number of its lease. -/
inductive Stage (n : Nat) where
  | leased (number : Nat) (lease : Lease n) (request : Http.Request)
  | calling (number : Nat) (lease : Lease n) (request : Http.Request)
  | judged (number : Nat) (lease : Lease n) (response : Http.Response)
  | ended

/-- What a request does that others can see. -/
inductive Act (n : Nat) where
  | contact (backend : Fin n) (sent : Http.Request)
  | record (backend : Fin n) (outcome : Outcome)
  | answer (response : Http.Response)

inductive Event (n : Nat) where
  | arrive (request : Http.Request)
  | call (number : Nat)
  | settle (number : Nat) (net : Network)
  | finish (number : Nat)
  | cancel (number : Nat)
  | elsewhere (event : Traffic.Event n) (h : event.ofRequest = false)

/-- The request that goes on. -/
def Event.number? {n : Nat} : Event n → Option Nat
  | call i | settle i _ | finish i | cancel i => some i
  | arrive _ | elsewhere _ _ => none

/-- The lease that a client gives up by going away. -/
def Stage.abandons? {n : Nat} : Stage n → Option Nat
  | leased k _ _ | calling k _ _ => some k
  | judged _ _ _ | ended => none

end Dispatching

/-- The pool in traffic, the addresses of its backends, and the requests by number. -/
structure Dispatching (n : Nat) where
  backends : Vector Url n
  limits : Call.Limits
  traffic : Traffic n
  requests : List (Dispatching.Stage n)

namespace Dispatching
variable {n : Nat}

def ofPool (backends : Vector Url n) (limits : Call.Limits) (p : Pool n) : Dispatching n :=
  ⟨backends, limits, .ofPool p, []⟩

def stage? (d : Dispatching n) (i : Nat) : Option (Stage n) :=
  d.requests[i]?

/-- A new request, under the next number. -/
def enter (d : Dispatching n) (stage : Stage n) : Dispatching n :=
  { d with requests := d.requests ++ [stage] }

def move (d : Dispatching n) (i : Nat) (stage : Stage n) : Dispatching n :=
  { d with requests := d.requests.set i stage }

/-- The traffic goes on by one event. -/
def pass (d : Dispatching n) (e : Traffic.Event n) : Dispatching n :=
  { d with traffic := d.traffic.next e }

/-- The request that the backend of a lease gets, if one can be made. -/
def sent? (d : Dispatching n) (l : Lease n) (r : Http.Request) : Option Http.Request :=
  (Call.forwardRequest (d.backends.get l.backend) r).toOption

/-- What comes of the call for a request: the answer to the client, and what to put on record. -/
def judgement (d : Dispatching n) (net : Network) (l : Lease n) (r : Http.Request) :
    Http.Response × Outcome :=
  let (result, latency) := Call.forward d.limits net (d.backends.get l.backend) r
  let (response, health) := Balancer.judge result
  (response, ⟨health, latency⟩)

/-- One event, and what the request does that it is about. -/
def step (d : Dispatching n) : Event n → Option (Act n) × Dispatching n
  | .arrive r =>
    match d.traffic.pool.select with
    | .error e => (some (.answer (.ofSelectionError e)), d.enter .ended)
    | .ok (l, _) => (none, (d.pass .select).enter (.leased d.traffic.leases.length l r))
  | .call i =>
    match d.stage? i with
    | some (.leased k l r) =>
      ((d.sent? l r).map (.contact l.backend), d.move i (.calling k l r))
    | _ => (none, d)
  | .settle i net =>
    match d.stage? i with
    | some (.calling k l r) =>
      let (response, outcome) := d.judgement net l r
      (some (.record l.backend outcome),
        (d.pass (.report k outcome)).move i (.judged k l response))
    | _ => (none, d)
  | .finish i =>
    match d.stage? i with
    | some (.judged k _ response) =>
      (some (.answer response), (d.pass (.release k)).move i .ended)
    | _ => (none, d)
  | .cancel i =>
    match (d.stage? i).bind Stage.abandons? with
    | some k => (none, (d.pass (.release k)).move i .ended)
    | none => (none, d)
  | .elsewhere e _ => (none, d.pass e)

def next (d : Dispatching n) (e : Event n) : Dispatching n :=
  (d.step e).2

def run (d : Dispatching n) : List (Event n) → Dispatching n
  | [] => d
  | e :: rest => run (d.next e) rest

/-- All that request `i` does after its arrival, in order. -/
def actsOf (d : Dispatching n) (i : Nat) : List (Event n) → List (Act n)
  | [] => []
  | e :: rest =>
    (if e.number? = some i then (d.step e).1.toList else []) ++ actsOf (d.next e) i rest

end Dispatching
end Sluice
