import Sluice.Proofs.HeapContents

/-! The order of a latency heap: no entry is faster than its parent, so the root is the fastest.

The moves break the order at one position at a time. `OrderedAround a i` is what stands everywhere
else, with the neighbours of `i` in order across it; both moves carry it along to the position the
entry goes to. A sinking entry stops where it has no children. A rising one is never slower than its
children, and stops where its parent is not slower, which restores the order. -/
namespace Sluice.LatencyHeap
variable {α : Type} {n : Nat}

/-! ### Positions -/

/-- Position `c` is a child of position `p`. -/
def IsChild (c p : Nat) : Prop :=
  c = 2 * p + 1 ∨ c = 2 * p + 2

theorem IsChild.lt {c p : Nat} (h : IsChild c p) : p < c := by
  unfold IsChild at h
  omega

theorem IsChild.eq_parent {c p : Nat} (h : IsChild c p) : p = parent c := by
  unfold IsChild parent at *
  omega

theorem isChild_parent {i : Nat} (h : i ≠ 0) : IsChild i (parent i) := by
  unfold IsChild parent
  omega

/-! ### Order, and order around one position -/

/-- No entry is faster than its parent. -/
def InOrder (a : Vector (Entry α) n) : Prop :=
  ∀ p c (hp : p < n) (hc : c < n), IsChild c p → a[p].latency ≤ a[c].latency

/-- In order but for the entry at `i`, which may be faster than its parent or slower than its
children. -/
structure OrderedAround (a : Vector (Entry α) n) (i : Fin n) : Prop where
  apart : ∀ p c (hp : p < n) (hc : c < n), IsChild c p → p ≠ i.val → c ≠ i.val →
    a[p].latency ≤ a[c].latency
  across : ∀ p c (hp : p < n) (hc : c < n), IsChild i.val p → IsChild c i.val →
    a[p].latency ≤ a[c].latency

/-- The entry at `i` is not slower than its children. -/
def Tops (a : Vector (Entry α) n) (i : Fin n) : Prop :=
  ∀ c (hc : c < n), IsChild c i.val → a[i].latency ≤ a[c].latency

theorem InOrder.root_le {a : Vector (Entry α) n} (h : InOrder a) (i : Nat) (hi : i < n) :
    a[0].latency ≤ a[i].latency := by
  induction i using Nat.strongRecOn with
  | ind i ih =>
    by_cases h0 : i = 0
    · subst h0
      exact Nat.le_refl _
    · have hchild := isChild_parent h0
      have hlt := hchild.lt
      exact Nat.le_trans (ih _ hlt (by omega)) (h _ i (by omega) hi hchild)

theorem inOrder_of_tops {a : Vector (Entry α) n} {i : Fin n} (ho : OrderedAround a i)
    (ht : Tops a i) (hp : ∀ p (hp : p < n), IsChild i.val p → a[p].latency ≤ a[i].latency) :
    InOrder a := by
  intro p c hpn hc hchild
  by_cases hpi : p = i.val
  · subst hpi
    exact ht c hc hchild
  · by_cases hci : c = i.val
    · subst hci
      exact hp p hpn hchild
    · exact ho.apart p c hpn hc hchild hpi hci

/-! ### Rising -/

/-- One exchange with a slower parent. -/
theorem OrderedAround.rise {a : Vector (Entry α) n} {i p : Nat} {hi : i < n} {hp : p < n}
    (ho : OrderedAround a ⟨i, hi⟩) (hip : IsChild i p) (faster : a[i].latency < a[p].latency) :
    OrderedAround (a.swap i p) ⟨p, hp⟩ ∧ Tops (a.swap i p) ⟨p, hp⟩ := by
  have hpi : p ≠ i := Nat.ne_of_lt hip.lt
  have hbelow : ∀ c (hc : c < n), IsChild c p → a[p].latency ≤ (a.swap i p)[c].latency := by
    intro c hc hcp
    by_cases hci : c = i
    · subst hci
      exact Nat.le_of_eq (by rw [Vector.getElem_swap_left])
    · rw [Vector.getElem_swap_of_ne hci (Nat.ne_of_gt hcp.lt)]
      exact ho.apart p c hp hc hcp hpi hci
  refine ⟨⟨?_, ?_⟩, ?_⟩
  · intro q c hq hc hchild hqp hcp
    have hci : c ≠ i := by
      rintro rfl
      exact hqp (hchild.eq_parent.trans hip.eq_parent.symm)
    rw [Vector.getElem_swap_of_ne hci hcp]
    by_cases hqi : q = i
    · subst hqi
      rw [Vector.getElem_swap_left]
      exact ho.across p c hp hc hip hchild
    · rw [Vector.getElem_swap_of_ne hqi hqp]
      exact ho.apart q c hq hc hchild hqi hci
  · intro q c hq hc hqp hcp
    have hqi : q ≠ i := Nat.ne_of_lt (Nat.lt_trans hqp.lt hip.lt)
    rw [Vector.getElem_swap_of_ne hqi (Nat.ne_of_lt hqp.lt)]
    exact Nat.le_trans (ho.apart q p hq hp hqp hqi hpi) (hbelow c hc hcp)
  · intro c hc hcp
    have hroot : (a.swap i p)[p].latency ≤ a[p].latency := by
      rw [Vector.getElem_swap_right]
      exact Nat.le_of_lt faster
    exact Nat.le_trans hroot (hbelow c hc hcp)

theorem rise_inOrder (a : Vector (Entry α) n) (i : Fin n) (ho : OrderedAround a i)
    (ht : Tops a i) : InOrder (rise a i) := by
  fun_induction rise a i with
  | case1 a i root => exact inOrder_of_tops ho ht fun p _ h => absurd h.lt (by omega)
  | case2 a i inner p faster ih =>
    obtain ⟨ho', ht'⟩ := ho.rise (isChild_parent inner) (Entry.compare_eq_gt.mp faster)
    exact ih ho' ht'
  | case3 a i inner p slower =>
    refine inOrder_of_tops ho ht fun q hq h => ?_
    obtain rfl := h.eq_parent
    exact Nat.le_of_not_lt fun faster => slower (Entry.compare_eq_gt.mpr faster)

/-! ### Sinking -/

theorem le_of_fasterChild_none {a : Vector (Entry α) n} {i : Fin n} (h : fasterChild a i = none)
    (c : Nat) (hc : IsChild c i.val) : n ≤ c := by
  unfold IsChild at hc
  unfold fasterChild at h
  split at h
  · split at h <;> cases h
  · split at h
    · cases h
    · omega

/-- The faster child is a child, and no child is faster. -/
theorem fasterChild_spec {a : Vector (Entry α) n} {i c : Fin n} (h : fasterChild a i = some c) :
    IsChild c.val i.val ∧
      ∀ d (hd : d < n), IsChild d i.val → a[c].latency ≤ a[d].latency := by
  unfold fasterChild at h
  split at h
  · split at h
    · next hright =>
      obtain rfl := Option.some.inj h
      refine ⟨.inr rfl, ?_⟩
      rintro d hd (rfl | rfl)
      · exact Entry.isLE_compare.mp hright
      · exact Nat.le_refl _
    · next hleft =>
      obtain rfl := Option.some.inj h
      refine ⟨.inl rfl, ?_⟩
      rintro d hd (rfl | rfl)
      · exact Nat.le_refl _
      · exact Nat.le_of_not_le fun hle => hleft (Entry.isLE_compare.mpr hle)
  · next hlast =>
    split at h
    · obtain rfl := Option.some.inj h
      refine ⟨.inl rfl, ?_⟩
      rintro d hd (rfl | rfl)
      · exact Nat.le_refl _
      · exact absurd hd hlast
    · cases h

/-- One exchange with the faster child. -/
theorem OrderedAround.sink {a : Vector (Entry α) n} {i c : Fin n} (ho : OrderedAround a i)
    (hc : fasterChild a i = some c) : OrderedAround (a.swap i c i.isLt c.isLt) c := by
  obtain ⟨hchild, hleast⟩ := fasterChild_spec hc
  have hci : c.val ≠ i.val := Nat.ne_of_gt hchild.lt
  refine ⟨?_, ?_⟩
  · intro p d hp hd hdp hpc hdc
    by_cases hdi : d = i.val
    · subst hdi
      rw [Vector.getElem_swap_left, Vector.getElem_swap_of_ne (Nat.ne_of_lt hdp.lt) hpc]
      exact ho.across p c.val hp c.isLt hdp hchild
    · rw [Vector.getElem_swap_of_ne hdi hdc]
      by_cases hpi : p = i.val
      · subst hpi
        rw [Vector.getElem_swap_left]
        exact hleast d hd hdp
      · rw [Vector.getElem_swap_of_ne hpi hpc]
        exact ho.apart p d hp hd hdp hpi hdi
  · intro p d hp hd hcp hdc
    obtain rfl : p = i.val := hcp.eq_parent.trans hchild.eq_parent.symm
    have hdi : d ≠ i.val := Nat.ne_of_gt (Nat.lt_trans hchild.lt hdc.lt)
    rw [Vector.getElem_swap_left, Vector.getElem_swap_of_ne hdi (Nat.ne_of_gt hdc.lt)]
    exact ho.apart c.val d c.isLt hd hdc hci hdi

theorem sink_orderedAround (a : Vector (Entry α) n) (i : Fin n) (ho : OrderedAround a i) :
    OrderedAround (sink a i).1 (sink a i).2 ∧ Tops (sink a i).1 (sink a i).2 := by
  fun_induction sink a i with
  | case1 a i bottom =>
    exact ⟨ho, fun c hc h => absurd (le_of_fasterChild_none bottom c h) (by omega)⟩
  | case2 a i c child ih => exact ih (ho.sink child)

/-! ### Push and pop -/

/-- The order of a whole heap. -/
def Ordered (h : LatencyHeap α) : Prop :=
  InOrder h.entries.toVector

theorem ordered_of_inOrder {a : Vector (Entry α) n} (h : InOrder a) :
    Ordered (⟨a.toArray⟩ : LatencyHeap α) := by
  obtain ⟨entries, rfl⟩ := a
  exact h

theorem empty_ordered : (empty : LatencyHeap α).Ordered := by
  intro p c hp
  exact absurd hp (Nat.not_lt_zero p)

theorem push_ordered {h : LatencyHeap α} (ho : h.Ordered) (e : Entry α) : (h.push e).Ordered := by
  have hlast : ∀ c, IsChild c h.entries.size → ¬ c < h.entries.size + 1 := by
    intro c hc
    have := hc.lt
    omega
  apply ordered_of_inOrder
  refine rise_inOrder _ _ ⟨?_, ?_⟩ ?_
  · intro p c hp hc hchild hpi hci
    have hps : p < h.entries.size := Nat.lt_of_le_of_ne (Nat.le_of_lt_succ hp) hpi
    have hcs : c < h.entries.size := Nat.lt_of_le_of_ne (Nat.le_of_lt_succ hc) hci
    rw [Vector.getElem_push_lt hps, Vector.getElem_push_lt hcs]
    exact ho p c hps hcs hchild
  · intro p c hp hc _ hchild
    exact absurd hc (hlast c hchild)
  · intro c hc hchild
    exact absurd hc (hlast c hchild)

/-- No entry is faster than the one a pop takes out. -/
theorem pop?_least {h rest : LatencyHeap α} {e : Entry α} (ho : h.Ordered)
    (hp : h.pop? = some (e, rest)) : ∀ d ∈ h.toList, e.latency ≤ d.latency := by
  intro d hd
  obtain ⟨i, hi, rfl⟩ := List.getElem_of_mem hd
  obtain ⟨_, hroot⟩ := Array.getElem?_eq_some_iff.mp (peek?_of_pop? hp)
  rw [← hroot]
  exact ho.root_le i hi

theorem pop?_ordered {h rest : LatencyHeap α} {e : Entry α} (ho : h.Ordered)
    (hp : h.pop? = some (e, rest)) : rest.Ordered := by
  rcases pop?_shape hp with ⟨_, rfl⟩ | ⟨m, last, tail, a, hlist, ha, rfl⟩
  · exact empty_ordered
  · have htail : tail.length = m := by
      have := congrArg List.length ha
      simpa using this.symm
    have hsize : h.entries.size = m + 2 := by
      have := congrArg List.length hlist
      simpa [toList, htail] using this
    -- Only the root is another one: what the pop starts from is in order around it.
    have hsame : ∀ i (hi : i < m + 1), i ≠ 0 → a[i] = h.entries[i] := by
      intro i hi h0
      obtain ⟨k, rfl⟩ := Nat.exists_eq_succ_of_ne_zero h0
      have : a.toList[k + 1]? = h.toList[k + 1]? := by
        rw [ha, hlist, List.getElem?_cons_succ, List.getElem?_cons_succ,
          List.getElem?_append_left (by omega)]
      simpa [toList, hi, hsize, Nat.lt_succ_of_lt hi] using this
    have hstart : OrderedAround a 0 := by
      refine ⟨?_, ?_⟩
      · intro p c hp hc hchild hp0 hc0
        rw [hsame p hp (by simpa using hp0), hsame c hc (by simpa using hc0)]
        exact ho p c (by omega) (by omega) hchild
      · intro p c hp hc hchild
        exact absurd hchild.lt (by simp)
    obtain ⟨hsunk, htops⟩ := sink_orderedAround a 0 hstart
    exact ordered_of_inOrder (rise_inOrder _ _ hsunk htops)

end Sluice.LatencyHeap
