import Sluice.Proofs.Staleness

/-! Filing again what is filed.

A re-filing empties the heap in array order, then the list from its front, and files one backend
after the other. In a heap that is in order no entry is faster than its parent, and the parent comes
before it in the array; so every entry stays where it is pushed, and the array grows back as it was
(`foldl_push_toList`). What is still filed by its standing therefore does not move at all
(`reclassify_of_agrees`). A re-filing leaves everything filed by its standing and the heap in order,
whatever there was before, and that is why a second one has nothing to do. -/
namespace Sluice

namespace LatencyHeap
variable {α : Type} {n : Nat} {h : LatencyHeap α} {e : Entry α} {es ds : List (Entry α)}

/-! ### Pushing in array order -/

theorem rise_of_not_faster {a : Vector (Entry α) n} {i : Fin n}
    (h : ∀ p (hp : p < n), IsChild i.val p → a[p].latency ≤ (a.get i).latency) : rise a i = a := by
  rw [rise]
  split
  · rfl
  · next inner =>
    have hparent := isChild_parent inner
    have hslower := h _ (Nat.lt_trans hparent.lt i.isLt) hparent
    exact if_neg fun faster => Nat.not_lt.mpr hslower (Entry.compare_eq_gt.mp faster)

theorem push_of_not_faster
    (hp : ∀ p (hp : p < h.entries.size), IsChild h.entries.size p →
      h.entries[p].latency ≤ e.latency) : h.push e = ⟨h.entries.push e⟩ := by
  rw [push, rise_of_not_faster]
  · rfl
  · intro p _ hchild
    have hps : p < h.entries.size := hchild.lt
    have hlast : ((Vector.mk h.entries rfl).push e)[h.entries.size] = e :=
      Vector.getElem_push_eq
    show _ ≤ (((Vector.mk h.entries rfl).push e)[h.entries.size]).latency
    rw [Vector.getElem_push_lt hps, hlast]
    exact hp p hps hchild

theorem ordered_iff_getElem : Ordered (⟨es.toArray⟩ : LatencyHeap α) ↔
    ∀ p c (hp : p < es.length) (hc : c < es.length), IsChild c p → es[p].latency ≤ es[c].latency :=
  Iff.rfl

/-- The front of an array that is in order is in order, too. -/
theorem Ordered.front (ho : Ordered (⟨(es ++ ds).toArray⟩ : LatencyHeap α)) :
    Ordered (⟨es.toArray⟩ : LatencyHeap α) := by
  rw [ordered_iff_getElem] at ho ⊢
  intro p c hp hc hchild
  have hall := ho p c (by rw [List.length_append]; omega) (by rw [List.length_append]; omega) hchild
  rwa [List.getElem_append_left hp, List.getElem_append_left hc] at hall

/-- In order, the last entry stays where it is pushed. -/
theorem Ordered.push_last (ho : Ordered (⟨(es ++ [e]).toArray⟩ : LatencyHeap α)) :
    (⟨es.toArray⟩ : LatencyHeap α).push e = ⟨(es ++ [e]).toArray⟩ := by
  rw [push_of_not_faster, List.push_toArray]
  intro p hp hchild
  have hps : p < es.length := hp
  have hlast := ordered_iff_getElem.mp ho p es.length (by rw [List.length_append]; omega)
    (by rw [List.length_append]; exact Nat.lt_succ_self _) hchild
  rw [List.getElem_append_left hps, List.getElem_concat_length rfl] at hlast
  exact hlast

/-- What comes behind a front of the array is pushed onto that front, entry by entry. -/
theorem Ordered.foldl_push (ho : Ordered (⟨(es ++ ds).toArray⟩ : LatencyHeap α)) :
    ds.foldl push (⟨es.toArray⟩ : LatencyHeap α) = ⟨(es ++ ds).toArray⟩ := by
  induction ds generalizing es with
  | nil => rw [List.append_nil, List.foldl_nil]
  | cons d rest ih =>
    rw [List.append_cons] at ho ⊢
    rw [List.foldl_cons, ho.front.push_last, ih ho]

theorem foldl_push_toList (ho : h.Ordered) : h.toList.foldl push empty = h := by
  have hall : Ordered (⟨([] ++ h.toList).toArray⟩ : LatencyHeap α) := ho
  exact hall.foldl_push

theorem foldl_push_perm (es : List (Entry α)) (h : LatencyHeap α) :
    (es.foldl push h).toList.Perm (es ++ h.toList) := by
  induction es generalizing h with
  | nil => exact .refl _
  | cons e rest ih =>
    refine (ih (h.push e)).trans ?_
    exact ((push_perm h e).append_left rest).trans List.perm_middle

end LatencyHeap

namespace Partition
variable {n : Nat} {s : Standings n} {p : Partition n}

/-! ### Filing by the standings -/

/-- The entry that a backend is filed under. -/
def entryOf (s : Standings n) (b : Fin n) : LatencyHeap.Entry (Fin n) :=
  ⟨s.latency b, b⟩

/-- The healthy ones are pushed, the others put at the end of the list, both in their order. -/
theorem fileAll_eq (s : Standings n) (p : Partition n) (bs : List (Fin n)) :
    p.fileAll s bs =
      ⟨((bs.filter s.isHealthy).map (entryOf s)).foldl LatencyHeap.push p.healthy,
        p.unhealthy ++ bs.filter fun b => !s.isHealthy b⟩ := by
  induction bs generalizing p with
  | nil => simp [fileAll]
  | cons b rest ih =>
    show (p.file s b).fileAll s rest = _
    rw [ih]
    cases hb : s.isHealthy b with
    | true => simp [file_healthy hb, hb, entryOf]
    | false => simp [file_unhealthy hb, hb]

theorem reclassify_eq (s : Standings n) (p : Partition n) :
    p.reclassify s =
      ⟨((p.members.filter s.isHealthy).map (entryOf s)).foldl LatencyHeap.push .empty,
        p.members.filter fun b => !s.isHealthy b⟩ :=
  fileAll_eq s empty p.members

theorem reclassify_healthy (s : Standings n) (p : Partition n) :
    (p.reclassify s).healthy.toList.Perm ((p.members.filter s.isHealthy).map (entryOf s)) := by
  rw [reclassify_eq]
  have hpushed := LatencyHeap.foldl_push_perm
    ((p.members.filter s.isHealthy).map (entryOf s)) LatencyHeap.empty
  rwa [show (LatencyHeap.empty : LatencyHeap (Fin n)).toList = [] from rfl,
    List.append_nil] at hpushed

theorem reclassify_unhealthy (s : Standings n) (p : Partition n) :
    (p.reclassify s).unhealthy = p.members.filter fun b => !s.isHealthy b := by
  rw [reclassify_eq]

theorem map_entryOf_items (ha : ∀ b, Agrees s p b) :
    p.healthy.items.map (entryOf s) = p.healthy.toList := by
  have hentry : ∀ e ∈ p.healthy.toList, entryOf s e.item = e := by
    intro e he
    rw [entryOf, ← ((ha e.item).up e he rfl).2]
  rw [LatencyHeap.items, List.map_map]
  exact (List.map_congr_left hentry).trans (List.map_id _)

/-- What is filed by its standing stays, to the last position. -/
theorem reclassify_of_agrees (ho : p.healthy.Ordered) (ha : ∀ b, Agrees s p b) :
    p.reclassify s = p := by
  rw [reclassify_eq, filter_members ha, filter_members_not ha, map_entryOf_items ha,
    LatencyHeap.foldl_push_toList ho]

theorem reclassify_reclassify (s : Standings n) (p : Partition n) :
    (p.reclassify s).reclassify s = p.reclassify s :=
  reclassify_of_agrees (reclassify_ordered s p) (agrees_reclassify s p)

end Partition

namespace Traffic
variable {n : Nat} {t : Traffic n} {p : Partition n}

theorem next_reclassify (h : LeastResponse t p) :
    t.next .reclassify = t.refiled (p.reclassify t.pool.standings) := by
  simp only [next, step, Pool.reclassify, h.selector, refiled]

theorem refiled_same (h : LeastResponse t p) : t.refiled p = t := by
  rw [refiled, ← h.selector]

/-- **Filing again settles a pool.** After any events, a re-filing touches neither the standings nor
the leases nor the sweeps. The same backends are filed as before, each once: the healthy ones in the
heap under the latencies on record, the others in the list. A second re-filing changes nothing, not
even a position in the heap or in the list; nor does the first, where all that is filed agrees with
the standings already, so that the backends come out in the order in which they would have. -/
theorem refiling_settles (s : Standings n) (events : List (Event n)) :
    let t := (ofPool (.ofStandings .leastResponse s)).run events
    let u := t.next .reclassify
    let healthy := t.pool.standings.isHealthy
    ∃ p q, t.pool.selector = .leastResponse p ∧ u = t.refiled q ∧
      q.members.Perm p.members ∧ q.members.Nodup ∧
      q.healthy.toList.Perm
        ((p.members.filter healthy).map fun b => ⟨t.pool.standings.latency b, b⟩) ∧
      q.unhealthy = (p.members.filter fun b => !healthy b) ∧
      u.next .reclassify = u ∧
      ((∀ b ∈ p.members, p.Agrees t.pool.standings b) →
        u = t ∧ ∀ later, u.handedOut later = t.handedOut later) := by
  intro t u healthy
  obtain ⟨p, hp⟩ := (sound_ofStandings s).run events
  let q := p.reclassify t.pool.standings
  have hmembers : q.members.Perm p.members := Partition.reclassify_members t.pool.standings p
  have hu : u = t.refiled q := next_reclassify hp.toLeastResponse
  refine ⟨p, q, hp.selector, hu, hmembers, ?_, Partition.reclassify_healthy _ p,
    Partition.reclassify_unhealthy _ p, ?_, ?_⟩
  · exact hmembers.nodup_iff.mpr (List.nodup_append.mp hp.nodup).1
  · have hq : LeastResponse (t.refiled q) q := ⟨rfl, hp.exclusive⟩
    rw [hu, next_reclassify hq]
    exact congrArg t.refiled (Partition.reclassify_reclassify t.pool.standings p)
  · intro hfiled
    have hagrees : ∀ b, p.Agrees t.pool.standings b := by
      intro b
      by_cases hb : b ∈ p.members
      · exact hfiled b hb
      · exact Partition.agrees_of_not_mem hb
    have hsame : u = t := by
      rw [hu, show q = p from Partition.reclassify_of_agrees hp.ordered hagrees]
      exact refiled_same hp.toLeastResponse
    exact ⟨hsame, fun later => by rw [hsame]⟩

/-- All three are equally fast. The one that has been out waits behind the others, and still does
after a re-filing. -/
theorem refiling_settles_between_ties :
    let t := (ofPool (.ofStandings .leastResponse (.fresh 3))).run [.select, .release 0]
    let u := t.next .reclassify
    u = t ∧ u.handedOut [.select, .select, .select] = [1, 2, 0] := by
  intro t u
  obtain ⟨p, _, hp, _, _, _, _, _, _, hsame⟩ := refiling_settles (.fresh 3) [.select, .release 0]
  have hattributed : ∀ e ∈ ([.select, .release 0] : List (Event 3)), e.attributed = true := by
    decide
  obtain ⟨p', hcurrent⟩ := current_run (.fresh 3) hattributed
  obtain rfl : p = p' := Selector.leastResponse.inj (hp.symm.trans hcurrent.selector)
  obtain ⟨hu, hout⟩ := hsame fun b _ => hcurrent.agrees_of_idle (by decide +kernel) b
  exact ⟨hu, (hout _).trans (by decide +kernel)⟩

end Traffic
end Sluice
