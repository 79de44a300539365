import Sluice.ProbeLoops
import Sluice.Router

/-! A balancer driven step by step.

Requests are numbered in the order in which they are started; each is answered by the network at
once, and its answer is kept until it is asked for. The loops that probe get their turn whenever
a step waits for something. -/
namespace Sluice

structure Session (n : Nat) where
  balancer : Balancer n
  probing : ProbeLoops
  answers : List (Option Http.Response)
  joined : Nat

namespace Session
variable {n : Nat}

inductive Event (n : Nat) where
  | send (request : Http.Request)
  | start (request : Http.Request)
  | finish (number : Nat)
  | cancel (number : Nat)
  | check
  | probe (backend : Fin n) (path : String)
  | checkHealth (backend : Fin n) (path : String)
  | set (backend : Fin n) (outcome : Outcome)
  | startProbing
  | stopProbing
  | waitProbed
  | join

inductive Answer where
  | response (r : Http.Response)
  | started (number : Nat) (inFlight : Bool)
  | cancelled (done : Bool)
  | noSuchRequest
  | tally (t : Tally)
  | probed (result : Except Call.Error Status)
  | health (h : Health)
  | probing (spawned running : Bool)
  | running (running : Bool)
  | joined (loops : Nat)
  | done

def ofBalancer (b : Balancer n) : Session n :=
  ⟨b, .initial, [], 0⟩

/-! ### The turn of the loops that probe -/

/-- One loop goes as far as it can. -/
def turn (net : Network) (s : Session n) (loop : Nat) : Session n :=
  match s.probing.step (.test loop) with
  | (.cycle _, probing) =>
    { s with balancer := (s.balancer.sweep net).2, probing := probing.next (.cycled loop) }
  | (_, probing) => { s with probing }

/-- All loops go as far as they can. A wake-up that was kept gives one of them a second turn. -/
def turns (net : Network) (s : Session n) : Session n :=
  let loops := List.range s.probing.loops.length
  (loops ++ loops).foldl (turn net) s

/-! ### Steps -/

def answer? (s : Session n) (number : Nat) : Option Http.Response :=
  (s.answers[number]?).join

/-- The answer to a request, at once. -/
def respond (net : Network) (freshId : String) (s : Session n) (r : Http.Request) :
    Http.Response × Session n :=
  let (response, balancer) := Router.handle s.balancer net freshId r
  (response, turns net { s with balancer })

def step (net : Network) (freshId : String) (s : Session n) : Event n → Answer × Session n
  | .send r =>
    let (response, s) := respond net freshId s r
    (.response response, s)
  | .start r =>
    let (response, s) := respond net freshId s r
    (.started s.answers.length false, { s with answers := s.answers ++ [some response] })
  | .finish k =>
    match s.answer? k with
    | some r => (.response r, { s with answers := s.answers.set k none })
    | none => (.noSuchRequest, s)
  | .cancel k =>
    match s.answer? k with
    | some _ => (.cancelled false, { s with answers := s.answers.set k none })
    | none => (.noSuchRequest, s)
  | .check =>
    let (tally, balancer) := s.balancer.sweep net
    (.tally tally, turns net { s with balancer })
  | .probe k path => (.probed (s.balancer.probe net path k).1, turns net s)
  | .checkHealth k path =>
    let (health, balancer) := s.balancer.checkHealth net path k
    (.health health, turns net { s with balancer })
  | .set k o => (.done, { s with balancer := s.balancer.set k o })
  | .startProbing =>
    let (answer, probing) := s.probing.step .start
    (.probing (answer ≠ .alreadyRunning) probing.running, { s with probing })
  | .stopProbing =>
    let probing := s.probing.next .stop
    (.running probing.running, { s with probing })
  | .waitProbed => (.done, turns net s)
  | .join =>
    let s := turns net s
    (.joined (s.probing.endedLoops - s.joined), { s with joined := s.probing.endedLoops })

end Session
end Sluice
