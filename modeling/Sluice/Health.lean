import Sluice.Duration

/-! Health of a backend, and the one rule that judges it.

A backend is healthy after a response whose status lies in 200..=206, and unhealthy after any other
status and after a call that brought no response. Probes and forwarded requests are judged alike. -/
namespace Sluice

/-- The status of an HTTP response: three digits. -/
structure Status where
  code : Nat
  three_digits : 100 ≤ code ∧ code ≤ 999 := by decide
deriving DecidableEq, Repr

namespace Status

def ofNat? (n : Nat) : Option Status :=
  if h : 100 ≤ n ∧ n ≤ 999 then some ⟨n, h⟩ else none

/-- What is said of a number that is no status. -/
def invalidMessage : String :=
  "invalid status code"

/-- The window of success, from OK to Partial Content. -/
def success (s : Status) : Bool :=
  200 ≤ s.code && s.code ≤ 206

def ok : Status := ⟨200, by decide⟩
def notFound : Status := ⟨404, by decide⟩
def serviceUnavailable : Status := ⟨503, by decide⟩

end Status

inductive Health where
  | healthy
  | unhealthy
deriving DecidableEq, Repr

namespace Health

/-- The judgement on a response. -/
def ofStatus (s : Status) : Health :=
  if s.success then healthy else unhealthy

def isHealthy : Health → Bool
  | healthy => true
  | unhealthy => false

/-- Health as a single byte. -/
def code : Health → UInt8
  | healthy => 1
  | unhealthy => 2

/-- Every byte but the one for healthy reads as unhealthy. -/
def ofCode (b : UInt8) : Health :=
  if b = 1 then healthy else unhealthy

def text : Health → String
  | healthy => "healthy"
  | unhealthy => "unhealthy"

theorem ofCode_code (h : Health) : ofCode h.code = h := by
  cases h <;> rfl

theorem isHealthy_iff {h : Health} : h.isHealthy = true ↔ h = healthy := by
  cases h <;> simp [isHealthy]

end Health

/-- What one probe or one forwarded request says about a backend. -/
structure Outcome where
  health : Health
  latency : Duration
deriving DecidableEq, Repr

/-- What is on record about a backend: its health and the microseconds of the last call. -/
structure Standing where
  health : Health
  latency : Nat
deriving DecidableEq, Repr

namespace Standing

/-- Backends start healthy and without latency, so that requests flow before the first probe. -/
def fresh : Standing :=
  ⟨.healthy, 0⟩

/-- A new outcome replaces all that was on record. -/
def ofOutcome (o : Outcome) : Standing :=
  ⟨o.health, o.latency.micros⟩

end Standing
end Sluice
