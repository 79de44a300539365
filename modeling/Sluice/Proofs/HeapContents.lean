import Sluice.LatencyHeap

/-! What a latency heap holds.

Rising and sinking only exchange entries. So a push adds its entry, a pop takes the root out, and
the other entries stay, whatever their latencies: the statements are about lists up to their
order. -/
namespace Sluice.LatencyHeap
variable {α : Type} {n : Nat}

theorem rise_perm (a : Vector (Entry α) n) (i : Fin n) : (rise a i).Perm a := by
  fun_induction rise a i with
  | case1 a i root => exact .rfl
  | case2 a i inner p faster ih => exact ih.trans (Vector.swap_perm i.isLt p.isLt)
  | case3 a i inner p slower => exact .rfl

theorem sink_perm (a : Vector (Entry α) n) (i : Fin n) : (sink a i).1.Perm a := by
  fun_induction sink a i with
  | case1 a i bottom => exact .rfl
  | case2 a i c child ih => exact ih.trans (Vector.swap_perm i.isLt c.isLt)

theorem length_toList (h : LatencyHeap α) : h.toList.length = h.size := rfl

theorem length_items (h : LatencyHeap α) : h.items.length = h.size := by
  rw [items, List.length_map, length_toList]

/-! ### Push -/

theorem push_perm (h : LatencyHeap α) (e : Entry α) : (h.push e).toList.Perm (e :: h.toList) := by
  have hrise := (rise_perm ((Vector.mk h.entries rfl).push e) ⟨h.entries.size, by omega⟩).toList
  refine hrise.trans ?_
  rw [Vector.toList_push]
  exact List.perm_append_comm

theorem push_items_perm (h : LatencyHeap α) (e : Entry α) :
    (h.push e).items.Perm (e.item :: h.items) :=
  (push_perm h e).map Entry.item

/-! ### Pop -/

theorem pop?_of_pop {h : LatencyHeap α} {front : Array (Entry α)} {last : Entry α}
    (hlast : h.entries.back? = some last) (hfront : h.entries.pop = front) :
    h.pop? =
      if hr : 0 < front.size then
        let sunk := sink ((Vector.mk front rfl).set 0 last) ⟨0, hr⟩
        some (front[0], ⟨(rise sunk.1 sunk.2).toArray⟩)
      else some (last, empty) := by
  subst hfront
  unfold pop?
  rw [hlast]

/-- A pop takes the only entry out, or puts the last one in place of the root, from where it sinks
to the bottom and rises again. -/
theorem pop?_shape {h rest : LatencyHeap α} {e : Entry α} (hp : h.pop? = some (e, rest)) :
    (h.toList = [e] ∧ rest = empty) ∨
      ∃ m last tail, ∃ a : Vector (Entry α) (m + 1),
        h.toList = e :: (tail ++ [last]) ∧ a.toList = last :: tail ∧
          rest = ⟨(rise (sink a 0).1 (sink a 0).2).toArray⟩ := by
  cases hlast : h.entries.back? with
  | none => simp [pop?, hlast] at hp
  | some last =>
    obtain ⟨⟨front⟩, hpush⟩ := Array.back?_eq_some_iff.mp hlast
    have hlist : h.toList = front ++ [last] := by simp [toList, hpush]
    rw [pop?_of_pop hlast (by rw [hpush, Array.pop_push])] at hp
    cases front with
    | nil =>
      obtain ⟨rfl, rfl⟩ : last = e ∧ empty = rest := by simpa using hp
      exact .inl ⟨hlist, rfl⟩
    | cons root tail =>
      rw [dif_pos (by simp)] at hp
      obtain ⟨rfl, rfl⟩ := Prod.mk.inj (Option.some.inj hp)
      let a := (Vector.mk ⟨root :: tail⟩ rfl).set 0 last
      exact .inr ⟨tail.length, last, tail, a, hlist, by simp [a], rfl⟩

theorem pop?_perm {h rest : LatencyHeap α} {e : Entry α} (hp : h.pop? = some (e, rest)) :
    h.toList.Perm (e :: rest.toList) := by
  rcases pop?_shape hp with ⟨hlist, rfl⟩ | ⟨m, last, tail, a, hlist, ha, rfl⟩
  · rw [hlist]
    exact .refl _
  · have hmoved : (rise (sink a 0).1 (sink a 0).2).toList.Perm a.toList :=
      ((rise_perm _ _).trans (sink_perm a 0)).toList
    rw [hlist]
    refine .cons e (List.perm_append_comm.trans ?_)
    rw [ha] at hmoved
    exact hmoved.symm

theorem pop?_items_perm {h rest : LatencyHeap α} {e : Entry α} (hp : h.pop? = some (e, rest)) :
    h.items.Perm (e.item :: rest.items) :=
  (pop?_perm hp).map Entry.item

/-- The entry a pop takes out is the one at the root. -/
theorem peek?_of_pop? {h rest : LatencyHeap α} {e : Entry α} (hp : h.pop? = some (e, rest)) :
    h.peek? = some e := by
  have : h.toList[0]? = some e := by
    rcases pop?_shape hp with ⟨hlist, _⟩ | ⟨m, last, tail, a, hlist, _⟩ <;> rw [hlist] <;> rfl
  rw [← this, peek?, toList, Array.getElem?_toList]

theorem pop?_eq_none_iff {h : LatencyHeap α} : h.pop? = none ↔ h.size = 0 := by
  cases hlast : h.entries.back? with
  | none =>
    have : h.entries = #[] := Array.back?_eq_none_iff.mp hlast
    simp [pop?, size, this]
  | some last =>
    obtain ⟨front, hpush⟩ := Array.back?_eq_some_iff.mp hlast
    rw [pop?_of_pop hlast rfl, size, hpush]
    split <;> simp

theorem exists_pop? {h : LatencyHeap α} (hs : h.size ≠ 0) : ∃ e rest, h.pop? = some (e, rest) := by
  cases hp : h.pop? with
  | none => exact absurd (pop?_eq_none_iff.mp hp) hs
  | some taken => exact ⟨taken.1, taken.2, rfl⟩

end Sluice.LatencyHeap
