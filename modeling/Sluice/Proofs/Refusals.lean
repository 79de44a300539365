import Sluice.Proofs.Overtaking
import Sluice.Proofs.Staleness

/-! Why a pool turns a request away.

Least response keeps no count of its leases. With the heap empty it looks at the length of the list,
and every backend that is missing there must be out on a lease, since it can be nowhere else
(`Sound.size_eq`). So a pool that says it is busy has a lease out, and one that says it is down has
none, even while sweeps are under way and the filing lags behind what is on record.

With no lease out everybody is filed, and with no sweep under way by what is on record. Then the
heap is empty exactly if nobody is healthy, which is when a selection in turn finds nobody. -/
namespace Sluice

namespace Partition
variable {n : Nat} {s : Standings n} {p : Partition n}

theorem checkOut_of_empty (h : p.healthy.size = 0) :
    p.checkOut =
      .error (if p.unhealthy.length < n then .allBackendsBusy else .noHealthyBackends) := by
  rw [checkOut, LatencyHeap.pop?_eq_none_iff.mpr h]

/-- Where all agree, the heap is empty as long as none of the backends filed is healthy. -/
theorem size_eq_zero_iff (h : ∀ b, Agrees s p b) :
    p.healthy.size = 0 ↔ ∀ b ∈ p.members, s.isHealthy b = false := by
  rw [← LatencyHeap.length_items, List.length_eq_zero_iff, ← filter_members h,
    List.filter_eq_nil_iff]
  simp only [Bool.not_eq_true]

end Partition

namespace Traffic
variable {n : Nat} {t : Traffic n} {p : Partition n} {log : List (Recording n)} {cursor : Nat}
  {error : SelectionError}

/-! ### Least response -/

/-- What the pool says with its heap empty. -/
theorem Sound.step_select_of_empty (h : Sound t p) (hempty : p.healthy.size = 0) :
    t.step .select =
      (.refused (if t.outstanding = [] then .noHealthyBackends else .allBackendsBusy), t) := by
  -- The list falls short of the pool by as many backends as there are leases.
  have hsize := h.size_eq
  have hshort : p.unhealthy.length < n ↔ t.outstanding ≠ [] := by
    rw [← List.length_pos_iff]
    omega
  rw [select_error h.toLeastResponse (Partition.checkOut_of_empty hempty)]
  by_cases hout : t.outstanding = [] <;> simp [hshort, hout]

theorem Sound.turnsAway_iff (h : Sound t p) :
    (∃ error, (t.step .select).1 = .refused error) ↔ p.healthy.size = 0 := by
  constructor
  · rintro ⟨error, hrefused⟩
    cases hout : p.checkOut with
    | error error' => exact Partition.checkOut_eq_error hout
    | ok taken =>
      rw [select_ok h.toLeastResponse hout] at hrefused
      cases hrefused
  · intro hempty
    exact ⟨_, congrArg Prod.fst (h.step_select_of_empty hempty)⟩

/-- Whoever is turned away changes nothing, and is told whether any lease is out. -/
theorem Sound.refusal (h : Sound t p) (hrefused : (t.step .select).1 = .refused error) :
    t.next .select = t ∧ (error = .allBackendsBusy ↔ t.outstanding ≠ []) ∧
      (error = .noHealthyBackends ↔ t.outstanding = []) := by
  have hstep := h.step_select_of_empty (h.turnsAway_iff.mp ⟨error, hrefused⟩)
  rw [hstep] at hrefused
  obtain rfl := Answer.refused.inj hrefused
  refine ⟨congrArg Prod.snd hstep, ?_⟩
  by_cases hout : t.outstanding = [] <;> simp [hout]

/-- With no lease out, everybody is filed. -/
theorem Sound.mem_members (h : Sound t p) (hout : t.outstanding = []) (b : Fin n) :
    b ∈ p.members := by
  have hall := h.whole.mem_iff.mpr (List.mem_finRange b)
  rwa [hout, List.map_nil, List.append_nil] at hall

/-- At rest, the pool turns a request away as down, and only when nobody is healthy. -/
theorem Current.refused_iff (h : Current t p log) (hidle : t.underWay = [])
    (hout : t.outstanding = []) :
    (t.step .select).1 = .refused error ↔
      error = .noHealthyBackends ∧ ∀ b, t.pool.standings.isHealthy b = false := by
  have hempty : p.healthy.size = 0 ↔ ∀ b, t.pool.standings.isHealthy b = false := by
    rw [Partition.size_eq_zero_iff (h.agrees_of_idle hidle)]
    exact forall_congr' fun b => forall_prop_of_true (h.mem_members hout b)
  constructor
  · intro hrefused
    obtain ⟨_, _, hword⟩ := h.refusal hrefused
    exact ⟨hword.mpr hout, hempty.mp (h.toSound.turnsAway_iff.mp ⟨error, hrefused⟩)⟩
  · rintro ⟨rfl, hdown⟩
    rw [h.step_select_of_empty (hempty.mpr hdown), if_pos hout]

/-! ### Round robin -/

/-- A pool in rotation is never busy. -/
theorem InTurn.refused_iff (h : InTurn t cursor) :
    (t.step .select).1 = .refused error ↔
      error = .noHealthyBackends ∧ ∀ b, t.pool.standings.isHealthy b = false := by
  have hscan := h.scan_eq_none_iff t.pool.standings
  simp only [not_exists, Bool.not_eq_true] at hscan
  rw [← hscan]
  cases hs : Rotation.scan t.pool.standings cursor with
  | none =>
    rw [h.select_none hs]
    simp [eq_comm]
  | some b =>
    rw [h.select_some hs]
    simp

/-! ### Both -/

/-- **Busy is told apart from down.** After any events at all, a least-response pool turns a request
away exactly if its heap is empty, and nothing changes; it says that it is busy if a lease is out,
and that it is down if none is. Where all outcomes come from requests and sweeps, and no lease is
out and no sweep under way, it turns a request away exactly if every backend is unhealthy, as down;
and so, with the same word, does any pool in rotation that has the same health on record. -/
theorem busy_or_down (s : Standings n) (events : List (Event n)) :
    let t := (ofPool (.ofStandings .leastResponse s)).run events
    ∃ p, t.pool.selector = .leastResponse p ∧
      ((∃ error, (t.step .select).1 = .refused error) ↔ p.healthy.size = 0) ∧
      (∀ error, (t.step .select).1 = .refused error → t.next .select = t ∧
        (error = .allBackendsBusy ↔ t.outstanding ≠ []) ∧
        (error = .noHealthyBackends ↔ t.outstanding = [])) ∧
      ((∀ e ∈ events, e.attributed = true) → t.outstanding = [] → t.underWay = [] →
        (∀ error, (t.step .select).1 = .refused error ↔
          error = .noHealthyBackends ∧ ∀ b, t.pool.standings.isHealthy b = false) ∧
        ∀ s' events', let t' := (ofPool (.ofStandings .roundRobin s')).run events'
          (∀ b, t'.pool.standings.isHealthy b = t.pool.standings.isHealthy b) →
          ∀ error, (t'.step .select).1 = .refused error ↔ (t.step .select).1 = .refused error) := by
  intro t
  obtain ⟨p, h⟩ := (sound_ofStandings s).run events
  refine ⟨p, h.selector, h.turnsAway_iff, fun _ => h.refusal, ?_⟩
  intro ha hout hidle
  obtain ⟨_, hcurrent⟩ := current_run s ha
  have hrefused : ∀ error, (t.step .select).1 = .refused error ↔
      error = .noHealthyBackends ∧ ∀ b, t.pool.standings.isHealthy b = false :=
    fun _ => hcurrent.refused_iff hidle hout
  refine ⟨hrefused, ?_⟩
  intro s' events' t' hsame error
  obtain ⟨cursor, hturn⟩ := (inTurn_ofStandings s').run events'
  have hdown : (∀ b, t'.pool.standings.isHealthy b = false) ↔
      ∀ b, t.pool.standings.isHealthy b = false :=
    forall_congr' fun b => by rw [hsame b]
  rw [hrefused, hturn.refused_iff, hdown]

/-- Both backends fail while a sweep finds nobody to ask. With the leases out the pool is busy; once
they are back it is down, as a pool in rotation is. -/
theorem busy_or_down_after_failures :
    let fail : Outcome := ⟨.unhealthy, ⟨5000⟩⟩
    let start (strategy : Strategy) : Traffic 2 := ofPool (.ofStandings strategy (.fresh 2))
    let failing : List (Event 2) := [.select, .select, .sweepBegin, .report 0 fail, .report 1 fail]
    let busy := (start .leastResponse).run failing
    let down := (start .leastResponse).run (failing ++ [.sweepEnd 0, .release 1, .release 0])
    let turn := (start .roundRobin).run failing
    (busy.step .select).1 = .refused .allBackendsBusy ∧
      (down.step .select).1 = .refused .noHealthyBackends ∧
      (turn.step .select).1 = .refused .noHealthyBackends := by
  intro fail start failing busy down turn
  obtain ⟨_, _, _, hbusy, _⟩ := busy_or_down (.fresh 2) failing
  obtain ⟨_, _, _, _, hrest⟩ :=
    busy_or_down (.fresh 2) (failing ++ [.sweepEnd 0, .release 1, .release 0])
  have hrefused : ∃ error, (busy.step .select).1 = .refused error :=
    ⟨.allBackendsBusy, by decide +kernel⟩
  have hout : busy.outstanding ≠ [] := by decide +kernel
  obtain ⟨hdown, hturn⟩ := hrest (by decide) (by decide +kernel) (by decide +kernel)
  have hfailed := (hdown .noHealthyBackends).mpr ⟨rfl, by decide +kernel⟩
  obtain ⟨error, he⟩ := hrefused
  obtain ⟨_, hword, _⟩ := hbusy error he
  refine ⟨?_, hfailed, ?_⟩
  · rw [← hword.mpr hout]
    exact he
  · exact (hturn (.fresh 2) failing (by decide +kernel) .noHealthyBackends).mpr hfailed

end Traffic
end Sluice
