import Sluice.Proofs.Sweeps

/-! How far the filing of a least-response pool may lag behind what is on record.

A request records on a backend that nobody files, and its lease files it by what it recorded. A
probe records on a backend that stays filed as it is, until its sweep files everything again. So the
filing of a backend agrees with its standing, or the last word on it is a probe's whose sweep is
still under way (`Current`). Sweeps may overlap, and a backend may be checked out and come back
between its probe and the end of the sweep: whoever files it last goes by the last word.

With no sweep under way nothing lags. With one, the root of the heap may be a backend that its probe
has just found unhealthy, and a checkout hands it out. -/
namespace Sluice.Traffic
variable {n : Nat} {t u : Traffic n} {p q : Partition n} {e : Event n} {a : Answer n}
  {log : List (Recording n)} {b : Fin n}

/-! ### The filing lags behind probes alone -/

/-- The last word on `b` is a probe's, and its sweep has yet to file again. -/
def Probed (t : Traffic n) (log : List (Recording n)) (b : Fin n) : Prop :=
  ∃ r k, lastOn b log = some r ∧ r.source = .sweep k ∧ (t.sweep? k).isSome = true

theorem Probed.of_sweeps (h : Probed t log b)
    (hsweeps : ∀ k, (t.sweep? k).isSome = true → (u.sweep? k).isSome = true) : Probed u log b := by
  obtain ⟨r, k, hlast, hsource, hunder⟩ := h
  exact ⟨r, k, hlast, hsource, hsweeps k hunder⟩

theorem Probed.append_other (h : Probed t log b) {r : Recording n} (hr : r.backend ≠ b) :
    Probed t (log ++ [r]) b := by
  obtain ⟨r', k, hlast, hsource, hunder⟩ := h
  exact ⟨r', k, by rw [lastOn_append_other hr, hlast], hsource, hunder⟩

theorem not_probed_of_idle (h : t.underWay = []) : ¬ Probed t log b := by
  rintro ⟨r, k, _, _, hunder⟩
  rw [sweep?_eq_none h k] at hunder
  cases hunder

/-- The filing of every backend agrees with its standing, unless a sweep that has probed it last is
still under way. -/
structure Current (t : Traffic n) (p : Partition n) (log : List (Recording n)) : Prop
    extends Sound t p where
  agrees : ∀ b, Partition.Agrees t.pool.standings p b ∨ Probed t log b

theorem current_ofStandings (s : Standings n) :
    Current (ofPool (.ofStandings .leastResponse s)) (.ofStandings s) [] where
  toSound := sound_ofStandings s
  agrees := fun b => .inl (Partition.agrees_ofStandings s b)

/-- One move. The cases that matter are the two that record: a report finds its backend unfiled, and
a probe has its sweep under way. -/
theorem Current.move_agrees (h : Current t p log) (ha : e.attributed = true)
    (m : Move t p e a u q) (b : Fin n) :
    Partition.Agrees u.pool.standings q b ∨
      Probed u (log ++ (t.recording e).toList) b := by
  have hb := h.agrees b
  cases m with
  | checkOut hq =>
    rw [append_recording_none rfl]
    exact hb.imp (fun hb => hb.checkOut hq) (fun hb => hb.of_sweeps fun _ hk => hk)
  | turnAway _ =>
    rw [append_recording_none rfl]
    exact hb
  | @report k c o hl =>
    rw [recording_report hl]
    have hunfiled : c ∉ p.members := h.not_filed hl
    by_cases hcb : b = c
    · subst hcb
      exact .inl (Partition.agrees_of_not_mem hunfiled)
    · exact hb.imp (fun hb => hb.record_other o hcb) fun hb =>
        (hb.append_other (Ne.symm hcb)).of_sweeps fun _ hk => hk
  | @release k c hl =>
    rw [append_recording_none rfl]
    exact hb.imp (fun hb => hb.file c) (fun hb => hb.of_sweeps fun _ hk => hk)
  | record => cases ha
  | reclassify => exact .inl (Partition.agrees_reclassify _ p b)
  | sweepBegin =>
    rw [append_recording_none rfl]
    refine hb.imp_right fun hb => hb.of_sweeps fun k hk => ?_
    obtain ⟨s, hs⟩ := Option.isSome_iff_exists.mp hk
    exact Option.isSome_iff_exists.mpr ⟨s, join_append hs _⟩
  | @sweepProbe k c o s hs hc =>
    rw [recording_sweepProbe hs hc]
    -- The sweep stays under way, and so does every other.
    have hstill : ∀ j, (t.sweep? j).isSome = true →
        ((t.sweeps.set k (some (s.note c o.health)))[j]?.join).isSome = true := by
      intro j hj
      by_cases hjk : j = k
      · subst hjk
        rw [join_set_same (lt_length_of_join hs)]
        rfl
      · rw [join_set_other hjk]
        exact hj
    by_cases hcb : b = c
    · subst hcb
      have hlast := lastOn_append_same (r := ⟨.sweep k, b, o⟩) rfl log
      exact .inr ⟨_, k, hlast, rfl, hstill k (by rw [hs]; rfl)⟩
    · exact hb.imp (fun hb => hb.record_other o hcb) fun hb =>
        (hb.append_other (Ne.symm hcb)).of_sweeps hstill
  | sweepEnd hs hd => exact .inl (Partition.agrees_reclassify _ p b)
  | decline _ hnone _ =>
    rw [append_recording_none hnone]
    exact hb

theorem Current.step (h : Current t p log) (ha : e.attributed = true) :
    ∃ q, Current (t.next e) q (log ++ (t.recording e).toList) := by
  obtain ⟨q, m, hq⟩ := h.toSound.step e
  exact ⟨q, hq, h.move_agrees ha m⟩

theorem current_run (s : Standings n) {events : List (Event n)}
    (ha : ∀ e ∈ events, e.attributed = true) :
    ∃ p, Current ((ofPool (.ofStandings .leastResponse s)).run events) p
      ((ofPool (.ofStandings .leastResponse s)).history events) := by
  have hstep : ∀ (t : Traffic n) (log : List (Recording n)) (e : Event n), e.attributed = true →
      (∃ p, Current t p log) → ∃ q, Current (t.next e) q (log ++ (t.recording e).toList) := by
    rintro t log e he ⟨p, hp⟩
    exact hp.step he
  exact run_keeps hstep events ha ⟨_, current_ofStandings s⟩

theorem Current.agrees_of_idle (h : Current t p log) (hidle : t.underWay = []) (b : Fin n) :
    Partition.Agrees t.pool.standings p b :=
  (h.agrees b).resolve_right (not_probed_of_idle hidle)

/-! ### What the filing says -/

/-- **No update is lost.** Where all outcomes come from requests and sweeps, the standing of a
backend is the health of the last outcome recorded on it and its latency, in whole microseconds of
64 bits; before there is any, the standing it started with. Whenever no sweep is under way, each
backend that is filed is filed by its standing: in the heap exactly while healthy, and there under
its latency. No sweep puts anything on record for a backend that was out when it took its
snapshot. -/
theorem filed_by_last_outcome (s : Standings n) (events : List (Event n))
    (ha : ∀ e ∈ events, e.attributed = true) :
    let t₀ := ofPool (.ofStandings .leastResponse s)
    let t := t₀.run events
    (∀ b, t.pool.standings.get b = match lastOn b (t₀.history events) with
      | some r => ⟨r.outcome.health, min (r.outcome.latency.nanos / 1000) (Nat.pow 2 64 - 1)⟩
      | none => s.get b) ∧
      (t.underWay = [] → ∃ p, t.pool.selector = .leastResponse p ∧ ∀ b ∈ p.members,
        (b ∈ p.healthy.items ↔ t.pool.standings.isHealthy b = true) ∧
          ∀ e ∈ p.healthy.toList, e.item = b → e.latency = t.pool.standings.latency b) ∧
      ∀ before after k j b, events = before ++ .sweepBegin :: after →
        ((t₀.run before).step .sweepBegin).1 = .sweeping k →
        (t₀.run before).lease? j = some (.checkedOut b) →
        ∀ r ∈ t₀.history events, r.source = .sweep k → r.backend ≠ b := by
  intro t₀ t
  refine ⟨standings_run t₀ events, ?_, ?_⟩
  · intro hidle
    obtain ⟨p, hp⟩ := current_run s ha
    refine ⟨p, hp.selector, fun b hb => ?_⟩
    have hagrees := hp.agrees_of_idle hidle b
    exact ⟨hagrees.mem_items_iff hb, fun e he heb => (hagrees.up e he heb).2⟩
  · rintro before after k j b rfl hbegin hlease
    exact (sound_ofStandings s).sweep_spares before after hbegin hlease

/-- Backend 0 is out while a sweep probes the other, and comes back unhealthy before the sweep
files again. -/
theorem filed_by_last_outcome_beside_sweep :
    let events : List (Event 2) := [.select, .sweepBegin, .report 0 ⟨.unhealthy, ⟨5000⟩⟩,
      .sweepProbe 0 1 ⟨.healthy, ⟨3500⟩⟩, .release 0, .sweepEnd 0]
    let t₀ : Traffic 2 := ofPool (.ofStandings .leastResponse (.fresh 2))
    let t := t₀.run events
    (∃ p, t.pool.selector = .leastResponse p ∧ ∀ b ∈ p.members,
      (b ∈ p.healthy.items ↔ t.pool.standings.isHealthy b = true) ∧
        ∀ e ∈ p.healthy.toList, e.item = b → e.latency = t.pool.standings.latency b) ∧
    ∀ r ∈ t₀.history events, r.source = .sweep 0 → r.backend ≠ 0 := by
  intro events t₀ t
  obtain ⟨_, hfiled, hspared⟩ := filed_by_last_outcome (.fresh 2) events (by decide)
  have hidle : t.underWay = [] := by decide +kernel
  have hbegin : ((t₀.run [.select]).step .sweepBegin).1 = .sweeping 0 := by decide +kernel
  have hlease : (t₀.run [.select]).lease? 0 = some (.checkedOut 0) := by decide +kernel
  exact ⟨hfiled hidle, hspared [.select] _ 0 0 0 rfl hbegin hlease⟩

/-! ### What a checkout can hand out -/

/-- At the root of the heap waits a backend that a sweep under way was the last to probe, and found
unhealthy. -/
def StaleRoot (t : Traffic n) (p : Partition n) (log : List (Recording n)) : Prop :=
  ∃ e r k, p.healthy.peek? = some e ∧ lastOn e.item log = some r ∧ r.source = .sweep k ∧
    (t.sweep? k).isSome = true ∧ r.outcome.health = .unhealthy

theorem isHealthy_of_lastOn {events : List (Event n)} {r : Recording n}
    (hr : lastOn b (t.history events) = some r) :
    (t.run events).pool.standings.isHealthy b = r.outcome.health.isHealthy := by
  rw [Standings.isHealthy, standings_run, standingAfter, hr]
  rfl

/-- A stale root is next in turn. -/
theorem StaleRoot.handed_out (h : StaleRoot t p log) (hp : LeastResponse t p) :
    ∃ b r u, t.step .select = (.leased t.leases.length (.checkedOut b), u) ∧
      lastOn b log = some r ∧ r.outcome.health = .unhealthy := by
  obtain ⟨e, r, k, hpeek, hlast, _, _, hdown⟩ := h
  have hsize : p.healthy.size ≠ 0 := by
    obtain ⟨hroot, _⟩ := Array.getElem?_eq_some_iff.mp hpeek
    exact Nat.ne_of_gt hroot
  obtain ⟨e', rest, hpop⟩ := LatencyHeap.exists_pop? hsize
  obtain rfl : e' = e := by
    rw [LatencyHeap.peek?_of_pop? hpop] at hpeek
    exact Option.some.inj hpeek
  exact ⟨e'.item, r, _, select_ok hp (Partition.checkOut_of_pop? hpop), hlast, hdown⟩

/-- Any other root is healthy, by its filing or by the probe that was the last word on it. -/
theorem Current.checkOut_healthy (h : Current t p log) (hroot : ¬ StaleRoot t p log)
    (hlog : ∀ b r, lastOn b log = some r →
      t.pool.standings.isHealthy b = r.outcome.health.isHealthy)
    (hout : p.checkOut = .ok (b, q)) : t.pool.standings.isHealthy b = true := by
  obtain ⟨e, rest, hpop, rfl, rfl⟩ := Partition.checkOut_eq_ok hout
  rcases h.agrees e.item with hagrees | ⟨r, k, hlast, hsource, hunder⟩
  · have he : e ∈ p.healthy.toList := (LatencyHeap.pop?_perm hpop).mem_iff.mpr List.mem_cons_self
    exact (hagrees.up e he rfl).1
  · rw [hlog e.item r hlast]
    cases hhealth : r.outcome.health with
    | healthy => rfl
    | unhealthy =>
      have hpeek := LatencyHeap.peek?_of_pop? hpop
      exact absurd ⟨e, r, k, hpeek, hlast, hsource, hunder, hhealth⟩ hroot

/-- **A checkout skips the unhealthy exactly when no sweep has left one at the root.** The backend
handed out is healthy by all that is on record at that moment, except where a sweep under way was
the last to probe it, found it unhealthy and has yet to file again. -/
theorem checkout_healthy_iff (s : Standings n) (events : List (Event n))
    (ha : ∀ e ∈ events, e.attributed = true) :
    let t₀ := ofPool (.ofStandings .leastResponse s)
    let t := t₀.run events
    ∃ p, t.pool.selector = .leastResponse p ∧
      ((∀ k l u, t.step .select = (.leased k l, u) →
        t.pool.standings.isHealthy l.backend = true) ↔ ¬ StaleRoot t p (t₀.history events)) := by
  intro t₀ t
  obtain ⟨p, hp⟩ := current_run s ha
  refine ⟨p, hp.selector, ?_, ?_⟩
  · intro hskips hroot
    obtain ⟨b, r, u, hselect, hlast, hdown⟩ := hroot.handed_out hp.toLeastResponse
    have hrecord : t.pool.standings.isHealthy b = r.outcome.health.isHealthy :=
      isHealthy_of_lastOn hlast
    have hhealthy := hskips _ _ _ hselect
    rw [Lease.backend, hrecord, hdown] at hhealthy
    cases hhealthy
  · intro hroot k l u hselect
    cases hout : p.checkOut with
    | error error =>
      rw [select_error hp.toLeastResponse hout] at hselect
      cases hselect
    | ok taken =>
      rw [select_ok hp.toLeastResponse hout] at hselect
      cases hselect
      exact hp.checkOut_healthy hroot (fun _ _ => isHealthy_of_lastOn) hout

/-- Of two sweeps that overlap, the second was the last to probe the root. -/
theorem checkout_healthy_iff_overlapping :
    let events : List (Event 2) := [.sweepBegin, .sweepProbe 0 0 ⟨.healthy, ⟨2000⟩⟩, .sweepBegin,
      .sweepProbe 1 0 ⟨.unhealthy, ⟨5000⟩⟩]
    let t₀ : Traffic 2 := ofPool (.ofStandings .leastResponse (.fresh 2))
    let t := t₀.run events
    ∃ p, t.pool.selector = .leastResponse p ∧ StaleRoot t p (t₀.history events) ∧
      ¬ ∀ k l u, t.step .select = (.leased k l, u) →
        t.pool.standings.isHealthy l.backend = true := by
  intro events t₀ t
  obtain ⟨p, hp, hiff⟩ := checkout_healthy_iff (.fresh 2) events (by decide)
  have hdown : t.pool.standings.isHealthy 0 = false := by decide +kernel
  have hanswer : (t.step .select).1 = .leased 0 (.checkedOut 0) := by decide +kernel
  have hbad : ¬ ∀ k l u, t.step .select = (.leased k l, u) →
      t.pool.standings.isHealthy l.backend = true := by
    intro hskips
    have hup := hskips 0 (.checkedOut 0) _ (Prod.ext hanswer rfl)
    rw [Lease.backend, hdown] at hup
    cases hup
  exact ⟨p, hp, Classical.not_not.mp fun hroot => hbad (hiff.mpr hroot), hbad⟩

/-- A sweep has found backend 0 unhealthy and not filed again yet. A checkout hands it out, though
backend 1 is healthy. -/
theorem unhealthy_root_handed_out :
    let t : Traffic 2 := (ofPool (.ofStandings .leastResponse (.fresh 2))).run
      [.sweepBegin, .sweepProbe 0 0 ⟨.unhealthy, ⟨5000⟩⟩]
    (t.step .select).1 = .leased 0 (.checkedOut 0) ∧
      t.pool.standings.isHealthy 0 = false ∧ t.pool.standings.isHealthy 1 = true := by
  decide +kernel

end Sluice.Traffic
