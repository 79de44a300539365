import Sluice.Proofs.Moves

/-! Fairness of selection in turn while health changes.

The backends stand in a circle, and the cursor at one of them. A selection takes the healthy backend
that is nearest ahead of the cursor (`scan_nearest`) and leaves the cursor just past it. So as long
as `c` is healthy whenever a selection is made and is not taken, the cursor cannot get past it:
having started just past `b`, it stays on the stretch from there to `c`, and `b` itself, the last
position of the circle, stays out of reach (`Approaching.scan`). How far other backends send the
cursor as they come and go does not matter. -/
namespace Sluice

namespace Rotation
variable {n : Nat} {s : Standings n} {cursor : Nat} {b c d : Fin n}

/-! ### Positions in a circle -/

/-- How many steps lead forward from position `i` to position `j`, around the end. -/
def ahead (n i j : Nat) : Nat :=
  if i ≤ j then j - i else j + n - i

theorem ahead_lt {i j : Nat} (hi : i < n) (hj : j < n) : ahead n i j < n := by
  unfold ahead
  split <;> omega

/-- That many steps forward do lead there. -/
theorem add_ahead_mod {i j : Nat} (hi : i < n) (hj : j < n) : (i + ahead n i j) % n = j := by
  unfold ahead
  split
  · rw [Nat.add_sub_cancel' ‹i ≤ j›, Nat.mod_eq_of_lt hj]
  · have hsum : i + (j + n - i) = j + n := by omega
    rw [hsum, Nat.add_mod_right, Nat.mod_eq_of_lt hj]

theorem ahead_add_mod {i k : Nat} (hi : i < n) (hk : k < n) : ahead n i ((i + k) % n) = k := by
  by_cases hlt : i + k < n
  · rw [Nat.mod_eq_of_lt hlt, ahead]
    split <;> omega
  · rw [Nat.mod_eq_sub_mod (Nat.le_of_not_lt hlt), Nat.mod_eq_of_lt (by omega), ahead]
    split <;> omega

theorem ahead_inj {i j k : Nat} (hi : i < n) (hj : j < n) (hk : k < n)
    (h : ahead n i j = ahead n i k) : j = k := by
  rw [← add_ahead_mod hi hj, h, add_ahead_mod hi hk]

/-- On the way from `i` to `k` stands `j`. -/
theorem ahead_split {i j k : Nat} (hi : i < n) (hj : j < n) (hk : k < n)
    (h : ahead n i j ≤ ahead n i k) : ahead n i j + ahead n j k = ahead n i k := by
  unfold ahead at h ⊢
  grind

/-- Two ways that make less than a lap together are one. -/
theorem ahead_trans {i j k : Nat} (hi : i < n) (hj : j < n)
    (h : ahead n i j + ahead n j k < n) : ahead n i k = ahead n i j + ahead n j k := by
  unfold ahead at h ⊢
  grind

theorem after_lt (b : Fin n) : after b < n :=
  Nat.mod_lt _ b.pos

theorem after_eq (b : Fin n) : after b = if b.val + 1 < n then b.val + 1 else 0 := by
  unfold after
  split
  · exact Nat.mod_eq_of_lt ‹_›
  · have hlast : b.val + 1 = n := by omega
    rw [hlast, Nat.mod_self]

/-- From just past a position, the position itself is the last one. -/
theorem ahead_after_self (b : Fin n) : ahead n (after b) b + 1 = n := by
  rw [after_eq, ahead]
  split <;> split <;> omega

/-- Short of a whole lap, one position further is one step more. -/
theorem ahead_after {i : Nat} (hi : i < n) (h : ahead n i d + 1 < n) :
    ahead n i (after d) = ahead n i d + 1 := by
  rw [after_eq]
  unfold ahead at h ⊢
  grind

/-! ### The nearest healthy backend -/

/-- The lap holds the backends by their distance from the cursor. -/
theorem ahead_lap (hc : cursor < n) (h : 0 < n) {i : Nat} (hi : i < (lap cursor h).length) :
    ahead n cursor (lap cursor h)[i] = i := by
  have hin : i < n := by simpa [lap] using hi
  have hval : ((lap cursor h)[i]).val = (cursor + i) % n := by simp [lap]
  rw [hval, ahead_add_mod hc hin]

theorem mem_lap (hc : cursor < n) (h : 0 < n) (b : Fin n) : b ∈ lap cursor h := by
  have hstep := ahead_lt hc b.isLt
  have hval := add_ahead_mod hc b.isLt
  exact List.mem_map.mpr ⟨_, List.mem_range.mpr hstep, Fin.ext hval⟩

theorem scan_eq_none_iff (hc : cursor < n) :
    scan s cursor = none ↔ ¬ ∃ b, s.isHealthy b = true := by
  have hn : 0 < n := Nat.zero_lt_of_lt hc
  rw [scan, dif_pos hn, List.find?_eq_none]
  constructor
  · rintro h ⟨b, hb⟩
    exact h b (mem_lap hc hn b) hb
  · intro h b _ hb
    exact h ⟨b, hb⟩

theorem scan_nearest (hc : cursor < n) (h : scan s cursor = some b) (hup : s.isHealthy c = true) :
    ahead n cursor b ≤ ahead n cursor c := by
  have hn : 0 < n := Nat.zero_lt_of_lt hc
  rw [scan, dif_pos hn] at h
  obtain ⟨_, i, hi, hb, hbefore⟩ := List.find?_eq_some_iff_getElem.mp h
  obtain ⟨j, hj, hcj⟩ := List.getElem_of_mem (mem_lap hc hn c)
  have hdb : ahead n cursor b = i := by rw [← hb, ahead_lap hc hn hi]
  have hdc : ahead n cursor c = j := by rw [← hcj, ahead_lap hc hn hj]
  rw [hdb, hdc]
  refine Nat.le_of_not_lt fun hlt => ?_
  have hdown := hbefore j hlt
  rw [hcj, hup] at hdown
  cases hdown

/-! ### Approaching -/

/-- Since it was just past `b`, the cursor has not gone past `c`. -/
structure Approaching (b c : Fin n) (cursor : Nat) : Prop where
  inside : cursor < n
  stretch : ahead n (after b) cursor ≤ ahead n (after b) c

theorem approaching_after (b c : Fin n) : Approaching b c (after b) where
  inside := after_lt b
  stretch := by simp [ahead]

/-- A selection while `c` is healthy takes `c`, or else neither `b` nor anything that would lead the
cursor past `c`. -/
theorem Approaching.scan (h : Approaching b c cursor) (hup : s.isHealthy c = true)
    (hd : scan s cursor = some d) (hdc : d ≠ c) : d ≠ b ∧ Approaching b c (after d) := by
  have hstart := after_lt b
  have hfar := ahead_lt hstart c.isLt
  have hsplit := ahead_split hstart h.inside c.isLt h.stretch
  have hnear := scan_nearest h.inside hd hup
  have hway : ahead n (after b) d = _ + _ := ahead_trans hstart h.inside (by omega)
  have hother : ahead n (after b) d ≠ ahead n (after b) c := fun heq =>
    hdc (Fin.ext (ahead_inj hstart d.isLt c.isLt heq))
  have hshort : ahead n (after b) d + 1 < n := by omega
  refine ⟨?_, after_lt d, ?_⟩
  · rintro rfl
    exact absurd (ahead_after_self d) (Nat.ne_of_lt hshort)
  · rw [ahead_after hstart hshort]
    omega

end Rotation

namespace Traffic
open Rotation
variable {n : Nat} {t : Traffic n} {cursor : Nat} {b c : Fin n}

/-! ### Events over a pool in rotation -/

/-- A pool in rotation. The cursor is a position, or zero where there is none. -/
structure InTurn (t : Traffic n) (cursor : Nat) : Prop where
  selector : t.pool.selector = .roundRobin cursor
  position : cursor < n ∨ n = 0 ∧ cursor = 0

/-- An event, its answer, and where it leaves the cursor. -/
inductive Turn (t : Traffic n) (cursor : Nat) : Event n → Answer n → Nat → Prop where
  | take {b : Fin n} : scan t.pool.standings cursor = some b →
      Turn t cursor .select (.leased t.leases.length (.shared b)) (after b)
  | turnAway : scan t.pool.standings cursor = none →
      Turn t cursor .select (.refused .noHealthyBackends) cursor
  | pass {e : Event n} {a : Answer n} : e.selects = false → a.backend? = none →
      Turn t cursor e a cursor

theorem inTurn_ofStandings (s : Standings n) : InTurn (ofPool (.ofStandings .roundRobin s)) 0 where
  selector := rfl
  position := by omega

theorem InTurn.scan_eq_none_iff (h : InTurn t cursor) (s : Standings n) :
    scan s cursor = none ↔ ¬ ∃ b, s.isHealthy b = true := by
  rcases h.position with hin | ⟨rfl, _⟩
  · exact Rotation.scan_eq_none_iff hin
  · exact ⟨fun _ ⟨b, _⟩ => b.elim0, fun _ => rfl⟩

theorem InTurn.select_some (h : InTurn t cursor) (hs : scan t.pool.standings cursor = some b) :
    t.step .select = (.leased t.leases.length (.shared b),
      { t with
        pool := { t.pool with selector := .roundRobin (after b) }
        leases := t.leases ++ [some (.shared b)] }) := by
  have hselect : t.pool.select =
      .ok (.shared b, { t.pool with selector := .roundRobin (after b) }) := by
    simp only [Pool.select, h.selector, Rotation.select, hs]
    rfl
  simp only [step, hselect]

theorem InTurn.select_none (h : InTurn t cursor) (hs : scan t.pool.standings cursor = none) :
    t.step .select = (.refused .noHealthyBackends, t) := by
  have hselect : t.pool.select = .error .noHealthyBackends := by
    simp only [Pool.select, h.selector, Rotation.select, hs]
    rfl
  simp only [step, hselect]

theorem InTurn.release (h : InTurn t cursor) (l : Lease n) : t.pool.release l = t.pool := by
  unfold Pool.release
  split
  · next hl =>
    rw [h.selector] at hl
    cases hl
  · rfl

/-- Only a selection moves the cursor, and nothing else is answered with a backend. -/
theorem InTurn.pass (h : InTurn t cursor) {e : Event n} (he : e.selects = false) :
    (t.step e).1.backend? = none ∧ (t.next e).pool.selector = .roundRobin cursor := by
  have hs := h.selector
  unfold next
  cases e with
  | select => cases he
  | report k o =>
    cases hl : t.lease? k <;> simp only [step, hl] <;> exact ⟨rfl, hs⟩
  | release k =>
    cases hl : t.lease? k <;> simp only [step, hl, h.release] <;> exact ⟨rfl, hs⟩
  | record b o => exact ⟨rfl, hs⟩
  | reclassify =>
    have hsame : t.pool.reclassify = t.pool := by simp only [Pool.reclassify, hs]
    simp only [step, hsame]
    exact ⟨rfl, hs⟩
  | sweepBegin => exact ⟨rfl, hs⟩
  | sweepProbe k b o =>
    cases hk : t.sweep? k with
    | none =>
      simp only [step, hk]
      exact ⟨rfl, hs⟩
    | some w =>
      by_cases hb : b ∈ w.pending <;> simp only [step, hk, hb, if_true, if_false] <;>
        exact ⟨rfl, hs⟩
  | sweepEnd k =>
    cases hk : t.sweep? k with
    | none =>
      simp only [step, hk]
      exact ⟨rfl, hs⟩
    | some w =>
      cases hd : w.done <;> simp only [step, hk, hd, Pool.finishSweep, hs] <;> exact ⟨rfl, hs⟩

/-- Every step over a pool in rotation is one of these, to a pool in rotation. -/
theorem InTurn.step (h : InTurn t cursor) (e : Event n) :
    ∃ cursor', Turn t cursor e (t.step e).1 cursor' ∧ InTurn (t.next e) cursor' := by
  by_cases he : e.selects = false
  · obtain ⟨ha, hs⟩ := h.pass he
    exact ⟨cursor, .pass he ha, hs, h.position⟩
  · obtain rfl : e = .select := by
      cases e <;> first | rfl | exact absurd rfl he
    unfold next
    cases hs : scan t.pool.standings cursor with
    | none =>
      rw [h.select_none hs]
      exact ⟨cursor, .turnAway hs, h⟩
    | some b =>
      rw [h.select_some hs]
      exact ⟨after b, .take hs, rfl, .inl (after_lt b)⟩

/-- A selection leaves the cursor just past the backend taken. -/
theorem InTurn.after_select (h : InTurn t cursor) {k : Nat} {u : Traffic n}
    (hb : t.step .select = (.leased k (.shared b), u)) : InTurn u (after b) := by
  obtain ⟨cursor', turn, hnext⟩ := h.step .select
  rw [next, hb] at hnext
  rw [hb] at turn
  cases turn with
  | take _ => exact hnext
  | pass he _ => cases he

theorem InTurn.run (h : InTurn t cursor) (events : List (Event n)) :
    ∃ cursor', InTurn (t.run events) cursor' := by
  induction events generalizing t cursor with
  | nil => exact ⟨cursor, h⟩
  | cons e rest ih =>
    obtain ⟨_, _, hnext⟩ := h.step e
    exact ih hnext

/-! ### Overtaking -/

/-- Whether `c` is healthy whenever a selection is made. -/
def upAtSelections (t : Traffic n) (c : Fin n) : List (Event n) → Bool
  | [] => true
  | e :: rest => (!e.selects || t.pool.standings.isHealthy c) && upAtSelections (t.next e) c rest

/-- On the way from `b` to `c` the cursor does not come to `b` before it has come to `c`. -/
theorem InTurn.not_overtaken (h : InTurn t cursor) (hway : Approaching b c cursor)
    {events : List (Event n)} (hup : t.upAtSelections c events = true)
    (hc : c ∉ t.handedOut events) : b ∉ t.handedOut events := by
  induction events generalizing t cursor with
  | nil => exact List.not_mem_nil
  | cons e rest ih =>
    obtain ⟨cursor', turn, hnext⟩ := h.step e
    rw [handedOut, List.mem_append, not_or] at hc ⊢
    obtain ⟨hfirst, hrest⟩ := hc
    rw [upAtSelections, Bool.and_eq_true] at hup
    obtain ⟨hnow, hlater⟩ := hup
    generalize (t.step e).1 = answer at turn hfirst ⊢
    cases turn with
    | @take d hd =>
      have hdc : d ≠ c := fun heq => hfirst (by simp [Answer.backend?, Lease.backend, heq])
      obtain ⟨hdb, hon⟩ := hway.scan hnow hd hdc
      refine ⟨?_, ih hnext hon hlater hrest⟩
      simpa [Answer.backend?, Lease.backend] using Ne.symm hdb
    | turnAway _ => exact ⟨List.not_mem_nil, ih hnext hway hlater hrest⟩
    | pass _ ha =>
      rw [ha]
      exact ⟨List.not_mem_nil, ih hnext hway hlater hrest⟩

/-- **Turns are kept while health changes.** Whatever has happened, the cursor is a position. A
selection takes a backend that is healthy at that moment if there is one, and else changes nothing.
Between two selections of one backend every other one that was healthy at each selection after the
first, up to the second, has had its turn. -/
theorem turn_between_turns (s : Standings n) (events : List (Event n)) :
    let t := (ofPool (.ofStandings .roundRobin s)).run events
    ∃ cursor, t.pool.selector = .roundRobin cursor ∧
      ((0 < n → cursor < n) ∧ (n = 0 → cursor = 0)) ∧
      ((∃ k b u, t.step .select = (.leased k (.shared b), u) ∧
          t.pool.standings.isHealthy b = true) ↔ ∃ b, t.pool.standings.isHealthy b = true) ∧
      ((¬ ∃ b, t.pool.standings.isHealthy b = true) →
        t.step .select = (.refused .noHealthyBackends, t)) ∧
      ∀ k b u later, t.step .select = (.leased k (.shared b), u) →
        ((u.run later).step .select).1.backend? = some b →
        ∀ c ≠ b, u.upAtSelections c (later ++ [.select]) = true → c ∈ u.handedOut later := by
  intro t
  obtain ⟨cursor, h⟩ := (inTurn_ofStandings s).run events
  refine ⟨cursor, h.selector, ?_, ?_, ?_, ?_⟩
  · have := h.position
    omega
  · refine ⟨fun ⟨_, b, _, _, hb⟩ => ⟨b, hb⟩, fun hup => ?_⟩
    cases hs : scan t.pool.standings cursor with
    | none => exact absurd hup ((h.scan_eq_none_iff _).mp hs)
    | some b => exact ⟨_, b, _, h.select_some hs, scan_isHealthy hs⟩
  · exact fun hdown => h.select_none ((h.scan_eq_none_iff _).mpr hdown)
  · intro k b u later hfirst hsecond c hcb hup
    have hother : c ∉ [b] := fun hmem => hcb (List.mem_singleton.mp hmem)
    have hend : u.handedOut (later ++ [.select]) = u.handedOut later ++ [b] := by
      rw [handedOut_append, handedOut, hsecond]
      rfl
    refine Decidable.byContradiction fun hc => ?_
    have hpast := (h.after_select hfirst).not_overtaken (approaching_after b c) hup
      (by rw [hend]; exact fun hmem => (List.mem_append.mp hmem).elim hc hother)
    rw [hend] at hpast
    exact hpast (List.mem_append_right _ List.mem_cons_self)

/-- Backend 1 is down at one selection and back before the next; backend 2 has its turn. -/
theorem turn_between_turns_past_gap :
    let u : Traffic 3 := (ofPool (.ofStandings .roundRobin (.fresh 3))).next .select
    let later : List (Event 3) :=
      [.record 1 ⟨.unhealthy, ⟨5000⟩⟩, .select, .record 1 ⟨.healthy, ⟨7000⟩⟩]
    ((u.run later).step .select).1.backend? = some 0 ∧
      u.upAtSelections 2 (later ++ [.select]) = true ∧ 2 ∈ u.handedOut later := by
  intro u later
  obtain ⟨_, _, _, _, _, hturn⟩ := turn_between_turns (.fresh 3) []
  have hagain : ((u.run later).step .select).1.backend? = some 0 := by decide +kernel
  have hup : u.upAtSelections 2 (later ++ [.select]) = true := by decide +kernel
  exact ⟨hagain, hup, hturn 0 0 u later rfl hagain 2 (by decide) hup⟩

end Traffic
end Sluice
