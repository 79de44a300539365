import Sluice.Proofs.Membership

/-! What a sweep puts on record.

A sweep is known by its number, which it keeps after it has ended and which no other sweep gets. It
records on the backends of its snapshot and on no others: a result takes its backend off the round,
and nothing adds one. So a backend that was out on a lease at the snapshot is spared by the sweep
for good, wherever it is filed later (`Spares`). -/
namespace Sluice.Traffic
variable {n : Nat} {t u : Traffic n} {p q : Partition n} {e : Event n} {a : Answer n}
  {log : List (Recording n)} {b : Fin n}

/-! ### Sweeps under way -/

theorem sweep?_mem {k : Nat} {s : Sweep n} (h : t.sweep? k = some s) : s ∈ t.underWay :=
  (filterMap_set_none h).mem_iff.mpr List.mem_cons_self

theorem sweep?_eq_none (h : t.underWay = []) (k : Nat) : t.sweep? k = none := by
  cases hs : t.sweep? k with
  | none => rfl
  | some s =>
    have hmem := sweep?_mem hs
    rw [h] at hmem
    cases hmem

theorem mem_front_or_back {s : Sweep n} (h : b ∈ s.pending) : b ∈ s.front ∨ b ∈ s.back := by
  unfold Sweep.pending at h
  split at h
  · exact .inr h
  · exact .inl h

/-- A result takes a backend off its round and adds none. -/
theorem note_subset (s : Sweep n) (c : Fin n) (h : Health) :
    (s.note c h).front ⊆ s.front ∧ (s.note c h).back ⊆ s.back := by
  unfold Sweep.note
  split
  · exact ⟨fun _ hmem => hmem, fun _ hmem => List.mem_of_mem_erase hmem⟩
  · exact ⟨fun _ hmem => List.mem_of_mem_erase hmem, fun _ hmem => hmem⟩

theorem recording_report {k : Nat} {l : Lease n} {o : Outcome} (h : t.lease? k = some l) :
    t.recording (.report k o) = some ⟨.lease k, l.backend, o⟩ := by
  rw [recording, h]
  rfl

theorem recording_sweepProbe {k : Nat} {o : Outcome} {s : Sweep n} (hs : t.sweep? k = some s)
    (hb : b ∈ s.pending) : t.recording (.sweepProbe k b o) = some ⟨.sweep k, b, o⟩ := by
  rw [recording, hs]
  exact if_pos (List.contains_iff_mem.mpr hb)

theorem recording_sweep {r : Recording n} {k : Nat} (hr : t.recording e = some r)
    (hsource : r.source = .sweep k) : ∃ s, t.sweep? k = some s ∧ r.backend ∈ s.pending := by
  cases e with
  | report j o =>
    obtain ⟨l, _, rfl⟩ := Option.map_eq_some_iff.mp hr
    cases hsource
  | record c o =>
    obtain rfl := Option.some.inj hr
    cases hsource
  | sweepProbe j c o =>
    obtain ⟨s, hs, hr⟩ := Option.bind_eq_some_iff.mp hr
    split at hr
    · next hc =>
      obtain rfl := Option.some.inj hr
      obtain rfl := Source.sweep.inj hsource
      exact ⟨s, hs, List.contains_iff_mem.mp hc⟩
    · cases hr
  | select | release _ | reclassify | sweepBegin | sweepEnd _ => cases hr

/-! ### Moves and sweeps -/

theorem Move.sweeps_length_le (m : Move t p e a u q) : t.sweeps.length ≤ u.sweeps.length := by
  cases m with
  | sweepBegin =>
    rw [List.length_append]
    exact Nat.le_add_right _ _
  | sweepProbe _ _ | sweepEnd _ _ => exact Nat.le_of_eq List.length_set.symm
  | checkOut _ | turnAway _ | report _ | release _ | record | reclassify | decline _ _ _ =>
    exact Nat.le_refl _

/-- The rounds of a sweep that has begun only shrink. -/
theorem Move.rounds_subset {k : Nat} {s' : Sweep n} (m : Move t p e a u q)
    (hk : k < t.sweeps.length) (hs' : u.sweep? k = some s') :
    ∃ s, t.sweep? k = some s ∧ s'.front ⊆ s.front ∧ s'.back ⊆ s.back := by
  cases m with
  | sweepBegin =>
    rw [sweep?, List.getElem?_append_left hk] at hs'
    exact ⟨s', hs', fun _ hmem => hmem, fun _ hmem => hmem⟩
  | @sweepProbe j c o s hs hc =>
    by_cases hkj : k = j
    · subst hkj
      rw [sweep?, join_set_same hk] at hs'
      obtain rfl := Option.some.inj hs'
      exact ⟨s, hs, note_subset s c o.health⟩
    · rw [sweep?, join_set_other hkj] at hs'
      exact ⟨s', hs', fun _ hmem => hmem, fun _ hmem => hmem⟩
  | @sweepEnd j s hs hd =>
    by_cases hkj : k = j
    · subst hkj
      rw [sweep?, join_set_same hk] at hs'
      cases hs'
    · rw [sweep?, join_set_other hkj] at hs'
      exact ⟨s', hs', fun _ hmem => hmem, fun _ hmem => hmem⟩
  | checkOut _ | turnAway _ | report _ | release _ | record | reclassify | decline _ _ _ =>
    exact ⟨s', hs', fun _ hmem => hmem, fun _ hmem => hmem⟩

/-! ### What was out at the snapshot -/

/-- Sweep `k` has begun, and neither has `b` in a round nor has put anything on record for it. -/
structure Spares (k : Nat) (b : Fin n) (t : Traffic n) (log : List (Recording n)) : Prop where
  begun : k < t.sweeps.length
  rounds : ∀ s, t.sweep? k = some s → b ∉ s.front ∧ b ∉ s.back
  silent : ∀ r ∈ log, r.source = .sweep k → r.backend ≠ b

theorem Spares.move {k : Nat} (h : Spares k b t log) (m : Move t p e a u q) :
    Spares k b u (log ++ (t.recording e).toList) := by
  refine ⟨Nat.lt_of_lt_of_le h.begun m.sweeps_length_le, ?_, ?_⟩
  · intro s' hs'
    obtain ⟨s, hs, hfront, hback⟩ := m.rounds_subset h.begun hs'
    obtain ⟨hf, hb⟩ := h.rounds s hs
    exact ⟨fun hmem => hf (hfront hmem), fun hmem => hb (hback hmem)⟩
  · intro r hr hsource
    rcases List.mem_append.mp hr with hr | hr
    · exact h.silent r hr hsource
    · obtain ⟨s, hs, hpending⟩ := recording_sweep (Option.mem_toList.mp hr) hsource
      rintro rfl
      obtain ⟨hf, hb⟩ := h.rounds s hs
      exact (mem_front_or_back hpending).elim hf hb

theorem Spares.run {k : Nat} (hp : Sound t p) (h : Spares k b t log) (events : List (Event n)) :
    Spares k b (t.run events) (log ++ t.history events) :=
  hp.run_keeps (fun _ m h => h.move m) h events

/-- Only sweeps that have begun are on record. -/
def Begun (t : Traffic n) (log : List (Recording n)) : Prop :=
  ∀ r ∈ log, ∀ k, r.source = .sweep k → k < t.sweeps.length

theorem begun_nil (t : Traffic n) : Begun t [] :=
  fun _ hr => absurd hr List.not_mem_nil

theorem Begun.move (h : Begun t log) (m : Move t p e a u q) :
    Begun u (log ++ (t.recording e).toList) := by
  intro r hr k hsource
  refine Nat.lt_of_lt_of_le ?_ m.sweeps_length_le
  rcases List.mem_append.mp hr with hr | hr
  · exact h r hr k hsource
  · obtain ⟨s, hs, _⟩ := recording_sweep (Option.mem_toList.mp hr) hsource
    exact lt_length_of_join hs

theorem Sound.history_begun (h : Sound t p) (events : List (Event n)) :
    Begun (t.run events) (t.history events) :=
  h.run_keeps (fun _ m h => h.move m) (begun_nil t) events

/-- A sweep that begins while `b` is out on a lease spares it. -/
theorem Sound.spares_begin (h : Sound t p) {j : Nat} (hlease : t.lease? j = some (.checkedOut b))
    (hlog : Begun t log) : Spares t.sweeps.length b (t.next .sweepBegin) log := by
  have hunfiled : b ∉ p.members := h.not_filed hlease
  rw [next, sweepBegin_eq h.toLeastResponse]
  refine ⟨?_, ?_, ?_⟩
  · rw [List.length_append]
    exact Nat.lt_succ_self _
  · intro s hs
    rw [sweep?, List.getElem?_concat_length] at hs
    obtain rfl := Option.some.inj hs
    exact ⟨fun hb => hunfiled (List.mem_append_left _ hb),
      fun hb => hunfiled (List.mem_append_right _ hb)⟩
  · intro r hr hsource
    exact absurd (hlog r hr _ hsource) (Nat.lt_irrefl _)

/-- It never puts anything on record for such a backend. -/
theorem Sound.sweep_spares (h : Sound t p) (before after : List (Event n)) {j k : Nat}
    (hbegin : ((t.run before).step .sweepBegin).1 = .sweeping k)
    (hlease : (t.run before).lease? j = some (.checkedOut b)) :
    ∀ r ∈ t.history (before ++ .sweepBegin :: after), r.source = .sweep k → r.backend ≠ b := by
  obtain ⟨q, hq⟩ := h.run before
  obtain ⟨q', _, hq'⟩ := hq.step .sweepBegin
  have hspares := (hq.spares_begin hlease (h.history_begun before)).run hq' after
  obtain rfl : (t.run before).sweeps.length = k := by
    rw [sweepBegin_eq hq.toLeastResponse] at hbegin
    exact Answer.sweeping.inj hbegin
  rw [history_append]
  exact hspares.silent

end Sluice.Traffic
