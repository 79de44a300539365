import Sluice.Balancer

/-! How calls are judged.

All that a judgement looks at is how the exchange ended, and whether there was one: the request for
the backend may be impossible to make. It is a success where a response came in time with a status
in 200..=206. Then the client gets that response, and else an answer of the balancer's own; and a
probe whose exchange ended in the same way says the same of the backend. -/
namespace Sluice

namespace Call
variable {net : Network} {base : Url} {r : Http.Request} {path : String}

/-- How an exchange ends, if the request for it can be made. -/
abbrev Ending := Option (Except Failure Http.Response)

def ending (net : Network) (made : Except Error Http.Request) : Ending :=
  made.toOption.map fun r => (net.exchange r).result

/-- A response has come, and its head says success. -/
def Ending.Success (x : Ending) (head : Http.Response) : Prop :=
  x = some (.ok head) ∧ 200 ≤ head.status.code ∧ head.status.code ≤ 206

/-- The judgement on an ending: the answer to the client, and the health of the backend. -/
def Ending.verdict : Ending → Http.Response × Health
  | some (.ok head) =>
    if head.status.success then
      ({ head with headers := Http.HopByHop.strip head.headers }, .healthy)
    else (.unavailable, .unhealthy)
  | _ => (.unavailable, .unhealthy)

theorem ending_ok {sent : Http.Request} : ending net (.ok sent) = some (net.exchange sent).result :=
  rfl

theorem judge_forward (limits : Limits) (net : Network) (base : Url) (r : Http.Request) :
    Balancer.judge (forward limits net base r).1 =
      (ending net (forwardRequest base r)).verdict := by
  cases hmade : forwardRequest base r with
  | error e =>
    simp only [forward, hmade]
    rfl
  | ok sent =>
    simp only [forward, hmade, ending_ok]
    cases (net.exchange sent).result <;> rfl

theorem judgeProbe_probe (limits : Limits) (net : Network) (base : Url) (path : String) :
    Balancer.judgeProbe (probe limits net base path).1 =
      (ending net (probeRequest base path)).verdict.2 := by
  cases hmade : probeRequest base path with
  | error e =>
    simp only [probe, hmade]
    rfl
  | ok sent =>
    simp only [probe, hmade, ending_ok]
    cases (net.exchange sent).result with
    | error f => rfl
    | ok head =>
      show Health.ofStatus head.status =
        (if head.status.success then _ else _ : Http.Response × Health).2
      rw [apply_ite Prod.snd]
      rfl

theorem success_iff {s : Status} : s.success = true ↔ 200 ≤ s.code ∧ s.code ≤ 206 := by
  simp [Status.success]

namespace Ending
variable {x : Ending} {head : Http.Response}

theorem Success.verdict (h : Success x head) :
    x.verdict = ({ head with headers := Http.HopByHop.strip head.headers }, .healthy) := by
  obtain ⟨rfl, hstatus⟩ := h
  exact if_pos (success_iff.mpr hstatus)

theorem verdict_failure (h : ¬ ∃ head, Success x head) :
    x.verdict = (.unavailable, .unhealthy) := by
  rcases x with _ | failure | head
  · rfl
  · rfl
  · exact if_neg fun hstatus => h ⟨head, rfl, success_iff.mp hstatus⟩

theorem verdict_healthy_iff : x.verdict.2 = .healthy ↔ ∃ head, Success x head := by
  constructor
  · intro hup
    refine Classical.not_not.mp fun hno => ?_
    rw [verdict_failure hno] at hup
    cases hup
  · intro ⟨head, h⟩
    rw [h.verdict]

end Ending
end Call
end Sluice
