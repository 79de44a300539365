import Sluice.Proofs.Moves

/-! Where the backends of a least-response pool are.

Each is filed in the heap, or filed in the list, or out on a lease, and in one of these places once.
`Sound` says so of a state, with the order of the heap beside it: the members of the partition and
the backends of the outstanding leases are together the positions of the pool, in some order. A
lease moves its backend from one part of that list to the other and back; nothing else crosses.

No condition is put on the run. Outcomes may be recorded on any backend at any time, and a sweep may
end long after its snapshot: a re-filing goes by who is present then, not by the snapshot. -/
namespace Sluice.Traffic
variable {n : Nat} {t u : Traffic n} {p q : Partition n} {e : Event n} {a : Answer n}

structure Sound (t : Traffic n) (p : Partition n) : Prop extends LeastResponse t p where
  whole : (p.members ++ t.outstanding.map Lease.backend).Perm (List.finRange n)
  ordered : p.healthy.Ordered

theorem sound_ofStandings (s : Standings n) :
    Sound (ofPool (.ofStandings .leastResponse s)) (.ofStandings s) where
  selector := rfl
  exclusive := fun _ h => absurd h List.not_mem_nil
  whole := by
    rw [show (ofPool (Pool.ofStandings .leastResponse s)).outstanding = [] from rfl,
      List.map_nil, List.append_nil]
    exact Partition.ofStandings_members s
  ordered := Partition.ofStandings_ordered s

/-- A lease takes its backend out of the partition and brings it back; whoever is filed stays filed
through everything else. -/
theorem Sound.move_whole (h : Sound t p) (m : Move t p e a u q) :
    (q.members ++ u.outstanding.map Lease.backend).Perm (List.finRange n) := by
  cases m with
  | @checkOut b q hq =>
    have hout : (t.leases ++ [some (Lease.checkedOut b)]).filterMap id =
        t.outstanding ++ [Lease.checkedOut b] := outstanding_append t _
    rw [outstanding, hout, List.map_append]
    refine List.Perm.trans ?_ h.whole
    rw [← List.append_assoc]
    refine List.perm_append_comm.trans ?_
    exact (Partition.checkOut_members hq).symm.append_right _
  | @release k b hl =>
    have hback : (t.outstanding.map Lease.backend).Perm
        (b :: ((t.leases.set k none).filterMap id).map Lease.backend) :=
      (outstanding_set_none hl).map Lease.backend
    refine List.Perm.trans ?_ h.whole
    refine ((Partition.file_members t.pool.standings p b).append_right _).trans ?_
    exact List.perm_middle.symm.trans (hback.symm.append_left p.members)
  | reclassify =>
    exact ((Partition.reclassify_members t.pool.standings p).append_right _).trans h.whole
  | sweepEnd hs hd =>
    exact ((Partition.reclassify_members t.pool.standings p).append_right _).trans h.whole
  | turnAway _ | report _ | record | sweepBegin | sweepProbe _ _ | decline _ _ _ => exact h.whole

theorem Sound.move_ordered (h : Sound t p) (m : Move t p e a u q) : q.healthy.Ordered := by
  cases m with
  | checkOut hq => exact Partition.checkOut_ordered h.ordered hq
  | release hl => exact Partition.file_ordered h.ordered t.pool.standings _
  | reclassify => exact Partition.reclassify_ordered t.pool.standings p
  | sweepEnd hs hd => exact Partition.reclassify_ordered t.pool.standings p
  | turnAway _ | report _ | record | sweepBegin | sweepProbe _ _ | decline _ _ _ => exact h.ordered

/-- Every event is a move from a sound state to a sound one. -/
theorem Sound.step (h : Sound t p) (e : Event n) :
    ∃ q, Move t p e (t.step e).1 (t.next e) q ∧ Sound (t.next e) q := by
  obtain ⟨q, m, hnext⟩ := step_move h.toLeastResponse e
  exact ⟨q, m, hnext, h.move_whole m, h.move_ordered m⟩

theorem Sound.run (h : Sound t p) (events : List (Event n)) : ∃ q, Sound (t.run events) q := by
  induction events generalizing t p with
  | nil => exact ⟨p, h⟩
  | cons e rest ih =>
    obtain ⟨q, _, hq⟩ := h.step e
    exact ih hq

/-- What every move from a sound state keeps of the state and the log, a run keeps. -/
theorem Sound.run_keeps {I : Traffic n → List (Recording n) → Prop}
    (hmove : ∀ {t u p q e a log}, Sound t p → Move t p e a u q → I t log →
      I u (log ++ (t.recording e).toList))
    (h : Sound t p) {log : List (Recording n)} (hi : I t log) (events : List (Event n)) :
    I (t.run events) (log ++ t.history events) := by
  have hstep : ∀ (t : Traffic n) (log : List (Recording n)) (e : Event n), True →
      (∃ p, Sound t p) ∧ I t log →
      (∃ q, Sound (t.next e) q) ∧ I (t.next e) (log ++ (t.recording e).toList) := by
    rintro t log e _ ⟨⟨p, hp⟩, hi⟩
    obtain ⟨q, m, hq⟩ := hp.step e
    exact ⟨⟨q, hq⟩, hmove hp m hi⟩
  exact (Traffic.run_keeps hstep events (fun _ _ => trivial) ⟨⟨p, h⟩, hi⟩).2

/-! ### What soundness says -/

theorem Sound.nodup (h : Sound t p) : (p.members ++ t.outstanding.map Lease.backend).Nodup :=
  h.whole.nodup_iff.mpr (List.nodup_finRange n)

theorem Sound.not_filed (h : Sound t p) {k : Nat} {l : Lease n} (hl : t.lease? k = some l) :
    l.backend ∉ p.members := by
  intro hfiled
  have hout : l.backend ∈ t.outstanding.map Lease.backend := List.mem_map_of_mem (lease?_mem hl)
  exact (List.nodup_append.mp h.nodup).2.2 _ hfiled _ hout rfl

theorem Sound.count_eq_one (h : Sound t p) (b : Fin n) :
    p.healthy.items.count b + p.unhealthy.count b +
      (t.outstanding.map Lease.backend).count b = 1 := by
  have hall : (List.finRange n).count b = 1 := by
    rw [(List.nodup_finRange n).count, if_pos (List.mem_finRange b)]
  have hwhole := h.whole.count_eq b
  rw [List.count_append, Partition.members, List.count_append, hall] at hwhole
  exact hwhole

theorem Sound.size_eq (h : Sound t p) :
    p.healthy.size + p.unhealthy.length + t.outstanding.length = n := by
  have hwhole := h.whole.length_eq
  rw [List.length_append, Partition.members, List.length_append, LatencyHeap.length_items,
    List.length_map, List.length_finRange] at hwhole
  exact hwhole

/-- Leases of one backend are one lease. -/
theorem Sound.lease_unique (h : Sound t p) {j k : Nat} {l m : Lease n} (hl : t.lease? j = some l)
    (hm : t.lease? k = some m) (hb : l.backend = m.backend) : j = k := by
  have hpair : t.leases.Pairwise fun x y =>
      ∀ l, x = some l → ∀ m, y = some m → l.backend ≠ m.backend := by
    have := (List.nodup_append.mp h.nodup).2.1
    rw [List.Nodup, List.pairwise_map, outstanding, List.pairwise_filterMap] at this
    exact this
  have hentry : ∀ {i : Nat} {l : Lease n}, t.lease? i = some l →
      ∃ hi : i < t.leases.length, t.leases[i] = some l := by
    intro i l hi
    exact List.getElem?_eq_some_iff.mp (Option.join_eq_some_iff.mp hi)
  obtain ⟨hj, hjl⟩ := hentry hl
  obtain ⟨hk, hkm⟩ := hentry hm
  rcases Nat.lt_trichotomy j k with hlt | heq | hgt
  · exact absurd hb (List.pairwise_iff_getElem.mp hpair j k hj hk hlt l hjl m hkm)
  · exact heq
  · exact absurd hb.symm (List.pairwise_iff_getElem.mp hpair k j hk hj hgt m hkm l hjl)

/-- **No backend is lost or doubled.** After any events at all, in any order, each backend of the
pool is in the heap, in the list or out on a lease, once; no two leases name one backend, and the
three sizes add up to the pool's. -/
theorem filed_or_leased_once (s : Standings n) (events : List (Event n)) :
    let t := (ofPool (.ofStandings .leastResponse s)).run events
    ∃ p, t.pool.selector = .leastResponse p ∧
      (∀ b, p.healthy.items.count b + p.unhealthy.count b +
        (t.outstanding.map Lease.backend).count b = 1) ∧
      (∀ j k l m, t.lease? j = some l → t.lease? k = some m → l.backend = m.backend → j = k) ∧
      p.healthy.size + p.unhealthy.length + t.outstanding.length = n := by
  obtain ⟨p, h⟩ := (sound_ofStandings s).run events
  exact ⟨p, h.selector, h.count_eq_one, fun _ _ _ _ hl hm hb => h.lease_unique hl hm hb, h.size_eq⟩

end Sluice.Traffic
