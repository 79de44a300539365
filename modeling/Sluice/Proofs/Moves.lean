import Sluice.Proofs.Filing
import Sluice.Proofs.Recordings

/-! What one event can do to a least-response pool.

`Move` lists the ways, each with the answer and the state it leaves, and `step_move` says that there
are no others. What is shown of every move holds of every run; no later proof looks into the step
itself. Leases and sweeps are numbered lists in which what has ended is `none`, so the first section
is about those. -/
namespace Sluice.Traffic
variable {n : Nat} {α : Type}

/-! ### Numbered lists -/

/-- Ending number `k` takes its value from those that are left. -/
theorem filterMap_set_none {xs : List (Option α)} {k : Nat} {x : α} (h : xs[k]?.join = some x) :
    (xs.filterMap id).Perm (x :: (xs.set k none).filterMap id) := by
  induction xs generalizing k with
  | nil => simp at h
  | cons y rest ih =>
    cases k with
    | zero =>
      obtain rfl : y = some x := by simpa using h
      exact .refl _
    | succ k =>
      have hrest := ih (by simpa using h)
      cases y with
      | none => simpa using hrest
      | some y => simpa using (hrest.cons y).trans (.swap x y _)

theorem lt_length_of_join {xs : List (Option α)} {k : Nat} {x : α} (h : xs[k]?.join = some x) :
    k < xs.length := by
  obtain ⟨hk, _⟩ := List.getElem?_eq_some_iff.mp (Option.join_eq_some_iff.mp h)
  exact hk

theorem join_append {xs : List (Option α)} {k : Nat} {x : α} (h : xs[k]?.join = some x)
    (ys : List (Option α)) : (xs ++ ys)[k]?.join = some x := by
  rw [List.getElem?_append_left (lt_length_of_join h)]
  exact h

theorem join_set_same {xs : List (Option α)} {k : Nat} (hk : k < xs.length) (x : Option α) :
    (xs.set k x)[k]?.join = x := by
  rw [List.getElem?_set_self hk]
  rfl

theorem join_set_other {xs : List (Option α)} {j k : Nat} (h : j ≠ k) (x : Option α) :
    (xs.set k x)[j]?.join = xs[j]?.join := by
  rw [List.getElem?_set_ne (Ne.symm h)]

variable {t : Traffic n} {p : Partition n}

theorem outstanding_append (t : Traffic n) (l : Lease n) :
    (t.leases ++ [some l]).filterMap id = t.outstanding ++ [l] := by
  rw [List.filterMap_append]
  rfl

theorem outstanding_set_none {k : Nat} {l : Lease n} (h : t.lease? k = some l) :
    t.outstanding.Perm (l :: (t.leases.set k none).filterMap id) :=
  filterMap_set_none h

theorem lease?_mem {k : Nat} {l : Lease n} (h : t.lease? k = some l) : l ∈ t.outstanding :=
  (outstanding_set_none h).mem_iff.mpr List.mem_cons_self

/-! ### Moves -/

/-- A least-response pool with this partition, whose leases are exclusive. -/
structure LeastResponse (t : Traffic n) (p : Partition n) : Prop where
  selector : t.pool.selector = .leastResponse p
  exclusive : ∀ l ∈ t.outstanding, ∃ b, l = .checkedOut b

/-- The same traffic over another partition. -/
def refiled (t : Traffic n) (q : Partition n) : Traffic n :=
  { t with pool := { t.pool with selector := .leastResponse q } }

/-- The event asks for a backend. -/
def Event.selects : Event n → Bool
  | .select => true
  | _ => false

/-- An event, its answer, and the traffic and partition it leaves. -/
inductive Move (t : Traffic n) (p : Partition n) :
    Event n → Answer n → Traffic n → Partition n → Prop where
  | checkOut {b q} : p.checkOut = .ok (b, q) →
      Move t p .select (.leased t.leases.length (.checkedOut b))
        { t.refiled q with leases := t.leases ++ [some (.checkedOut b)] } q
  | turnAway {error} : p.checkOut = .error error →
      Move t p .select (.refused error) t p
  | report {k b o} : t.lease? k = some (.checkedOut b) →
      Move t p (.report k o) (.recorded o.health) { t with pool := t.pool.record b o } p
  | release {k b} : t.lease? k = some (.checkedOut b) →
      Move t p (.release k) .released
        { t.refiled (p.file t.pool.standings b) with leases := t.leases.set k none }
        (p.file t.pool.standings b)
  | record {b o} :
      Move t p (.record b o) (.recorded o.health) { t with pool := t.pool.record b o } p
  | reclassify :
      Move t p .reclassify .reclassified (t.refiled (p.reclassify t.pool.standings))
        (p.reclassify t.pool.standings)
  | sweepBegin :
      Move t p .sweepBegin (.sweeping t.sweeps.length)
        { t with sweeps := t.sweeps ++ [some ⟨p.healthy.items, p.unhealthy, []⟩] } p
  | sweepProbe {k b o s} : t.sweep? k = some s → b ∈ s.pending →
      Move t p (.sweepProbe k b o) (.recorded o.health)
        { t with
          pool := t.pool.record b o
          sweeps := t.sweeps.set k (some (s.note b o.health)) } p
  | sweepEnd {k s} : t.sweep? k = some s → s.done = true →
      Move t p (.sweepEnd k)
        (.swept ⟨(p.reclassify t.pool.standings).healthy.size,
          (p.reclassify t.pool.standings).unhealthy.length⟩)
        { t.refiled (p.reclassify t.pool.standings) with sweeps := t.sweeps.set k none }
        (p.reclassify t.pool.standings)
  | decline {e a} : e.selects = false → t.recording e = none →
      a = .noSuchLease ∨ a = .noSuchSweep ∨ a = .notPending → Move t p e a t p

theorem LeastResponse.lease? (h : LeastResponse t p) {k : Nat} {l : Lease n}
    (hl : t.lease? k = some l) : ∃ b, l = .checkedOut b :=
  h.exclusive l (lease?_mem hl)

theorem select_ok (h : LeastResponse t p) {b : Fin n} {q : Partition n}
    (hq : p.checkOut = .ok (b, q)) :
    t.step .select = (.leased t.leases.length (.checkedOut b),
      { t.refiled q with leases := t.leases ++ [some (.checkedOut b)] }) := by
  have hselect : t.pool.select =
      .ok (.checkedOut b, { t.pool with selector := .leastResponse q }) := by
    simp only [Pool.select, h.selector, hq]
    rfl
  simp only [step, hselect]
  rfl

theorem select_error (h : LeastResponse t p) {error : SelectionError}
    (he : p.checkOut = .error error) : t.step .select = (.refused error, t) := by
  have hselect : t.pool.select = .error error := by
    simp only [Pool.select, h.selector, he]
    rfl
  simp only [step, hselect]

theorem sweepBegin_eq (h : LeastResponse t p) :
    t.step .sweepBegin = (.sweeping t.sweeps.length,
      { t with sweeps := t.sweeps ++ [some ⟨p.healthy.items, p.unhealthy, []⟩] }) := by
  have hsnapshot : t.pool.snapshot = (p.healthy.items, p.unhealthy) := by
    simp only [Pool.snapshot, h.selector]
  simp only [step, hsnapshot]

theorem exclusive_of_subset {u : Traffic n} (h : LeastResponse t p)
    (hs : ∀ l ∈ u.outstanding, l ∈ t.outstanding) :
    ∀ l ∈ u.outstanding, ∃ b, l = .checkedOut b :=
  fun l hl => h.exclusive l (hs l hl)

/-- Every step over a least-response pool is a move, to a least-response pool. -/
theorem step_move (h : LeastResponse t p) (e : Event n) :
    ∃ q, Move t p e (t.step e).1 (t.next e) q ∧ LeastResponse (t.next e) q := by
  unfold next
  cases e with
  | select =>
    cases hq : p.checkOut with
    | error error =>
      rw [select_error h hq]
      exact ⟨p, .turnAway hq, h⟩
    | ok taken =>
      obtain ⟨b, q⟩ := taken
      rw [select_ok h hq]
      refine ⟨q, .checkOut hq, rfl, ?_⟩
      intro l hl
      rw [outstanding, outstanding_append] at hl
      rcases List.mem_append.mp hl with hl | hl
      · exact h.exclusive l hl
      · exact ⟨b, List.mem_singleton.mp hl⟩
  | report k o =>
    cases hl : t.lease? k with
    | none =>
      simp only [step, hl]
      exact ⟨p, .decline rfl (by simp [recording, hl]) (.inl rfl), h⟩
    | some l =>
      obtain ⟨b, rfl⟩ := h.lease? hl
      simp only [step, hl]
      exact ⟨p, .report hl, h.selector, h.exclusive⟩
  | release k =>
    cases hl : t.lease? k with
    | none =>
      simp only [step, hl]
      exact ⟨p, .decline rfl rfl (.inl rfl), h⟩
    | some l =>
      obtain ⟨b, rfl⟩ := h.lease? hl
      have hrelease : t.pool.release (.checkedOut b) =
          { t.pool with selector := .leastResponse (p.file t.pool.standings b) } := by
        simp only [Pool.release, h.selector]
      simp only [step, hl, hrelease]
      refine ⟨_, .release hl, rfl, exclusive_of_subset h fun l hmem => ?_⟩
      exact (outstanding_set_none hl).mem_iff.mpr (List.mem_cons_of_mem _ hmem)
  | record b o => exact ⟨p, .record, h.selector, h.exclusive⟩
  | reclassify =>
    have hreclassify : t.pool.reclassify =
        { t.pool with selector := .leastResponse (p.reclassify t.pool.standings) } := by
      simp only [Pool.reclassify, h.selector]
    simp only [step, hreclassify]
    exact ⟨_, .reclassify, rfl, h.exclusive⟩
  | sweepBegin =>
    rw [sweepBegin_eq h]
    exact ⟨p, .sweepBegin, h.selector, h.exclusive⟩
  | sweepProbe k b o =>
    cases hs : t.sweep? k with
    | none =>
      simp only [step, hs]
      exact ⟨p, .decline rfl (by simp [recording, hs]) (.inr (.inl rfl)), h⟩
    | some s =>
      by_cases hb : b ∈ s.pending
      · simp only [step, hs, hb, if_true]
        exact ⟨p, .sweepProbe hs hb, h.selector, h.exclusive⟩
      · simp only [step, hs, hb, if_false]
        exact ⟨p, .decline rfl (by simp [recording, hs, hb]) (.inr (.inr rfl)), h⟩
  | sweepEnd k =>
    cases hs : t.sweep? k with
    | none =>
      simp only [step, hs]
      exact ⟨p, .decline rfl rfl (.inr (.inl rfl)), h⟩
    | some s =>
      cases hd : s.done with
      | false =>
        simp only [step, hs, hd]
        exact ⟨p, .decline rfl rfl (.inr (.inr rfl)), h⟩
      | true =>
        simp only [step, hs, hd, if_true, Pool.finishSweep, h.selector]
        exact ⟨_, .sweepEnd hs hd, rfl, h.exclusive⟩

end Sluice.Traffic
