import Sluice.Http.Message
import Sluice.Network

/-! Visits of clients to a server that listens.

A client that does not reach the listener, or comes after the end, is refused. Visits may be begun
and looked at later; they are numbered in the order in which they begin. Serving goes on until it is
told to stop. -/
namespace Sluice

/-- What a client gets. -/
inductive Visit where
  | refused
  | answered (response : Http.Response)
deriving DecidableEq, Repr

/-- How serving ends. No error ends it: a visit that fails is the end of that visit only. -/
inductive Service.Ending where
  | stopped
deriving DecidableEq, Repr

/-- The exit code of a program that has served to its end. -/
def Service.Ending.exitCode : Ending → Nat
  | stopped => 0

/-- A server as clients see it: what it is in, whether it takes visits, and those that are not
looked at yet. -/
structure Service (σ : Type) where
  server : σ
  taking : Bool
  visits : List (Option Visit)

namespace Service
variable {σ : Type}

/-- How a server answers. -/
abbrev Handler (σ : Type) := σ → Http.Request → Http.Response × σ

inductive Event where
  | send (request : Http.Request)
  | start (request : Http.Request)
  | finish (number : Nat)
  | stop

inductive Answer where
  | visit (v : Visit)
  | started (number : Nat)
  | noSuchVisit
  | stopped
deriving DecidableEq, Repr

def ofServer (server : σ) : Service σ :=
  ⟨server, true, []⟩

def receive (handler : Handler σ) (net : Network) (s : Service σ) (r : Http.Request) :
    Visit × Service σ :=
  if net.reachable && s.taking then
    let (response, server) := handler s.server r
    (.answered response, { s with server })
  else (.refused, s)

def step (handler : Handler σ) (net : Network) (s : Service σ) : Event → Answer × Service σ
  | .send r =>
    let (v, s) := s.receive handler net r
    (.visit v, s)
  | .start r =>
    let (v, s) := s.receive handler net r
    (.started s.visits.length, { s with visits := s.visits ++ [some v] })
  | .finish k =>
    match (s.visits[k]?).join with
    | some v => (.visit v, { s with visits := s.visits.set k none })
    | none => (.noSuchVisit, s)
  | .stop => (.stopped, { s with taking := false })

/-- How serving has ended, if it has. -/
def ending? (s : Service σ) : Option Ending :=
  if s.taking then none else some .stopped

theorem receive_taking (handler : Handler σ) (net : Network) (s : Service σ) (r : Http.Request) :
    (s.receive handler net r).2.taking = s.taking := by
  unfold receive
  split <;> rfl

/-- Nothing but a stop ends serving. -/
theorem ending?_step (handler : Handler σ) (net : Network) (s : Service σ) {e : Event}
    (h : e ≠ .stop) : (s.step handler net e).2.ending? = s.ending? := by
  cases e with
  | send r => simp only [step, ending?, receive_taking]
  | start r => simp only [step, ending?, receive_taking]
  | finish k =>
    simp only [step]
    cases (s.visits[k]?).join <;> rfl
  | stop => exact absurd rfl h

end Service
end Sluice
