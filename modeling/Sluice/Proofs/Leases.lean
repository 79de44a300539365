import Sluice.Proofs.Moves

/-! The leases of a pool, whatever its strategy.

A selection adds a lease at the end, a release ends the one that it names, and nothing else touches
any. So a lease stays as it was given until somebody releases it by its number. -/
namespace Sluice.Traffic
variable {n : Nat}

/-- What an event does to the leases. -/
inductive Leasing (t : Traffic n) : Event n → Traffic n → Prop where
  | give {l pool} : t.pool.select = .ok (l, pool) →
      Leasing t .select { t with pool, leases := t.leases ++ [some l] }
  | give_back {k l} : t.lease? k = some l →
      Leasing t (.release k) { t with pool := t.pool.release l, leases := t.leases.set k none }
  | keep {e u} : u.leases = t.leases → Leasing t e u

variable {t : Traffic n} {e : Event n} {k : Nat} {l : Lease n}

theorem next_leasing (t : Traffic n) (e : Event n) : Leasing t e (t.next e) := by
  unfold next
  cases e with
  | select =>
    cases hs : t.pool.select with
    | error error =>
      simp only [step, hs]
      exact .keep rfl
    | ok taken =>
      simp only [step, hs]
      exact .give hs
  | report k o =>
    cases hl : t.lease? k <;> simp only [step, hl] <;> exact .keep rfl
  | release k =>
    cases hl : t.lease? k with
    | none =>
      simp only [step, hl]
      exact .keep rfl
    | some l =>
      simp only [step, hl]
      exact .give_back hl
  | record b o => exact .keep rfl
  | reclassify => exact .keep rfl
  | sweepBegin => exact .keep rfl
  | sweepProbe k b o =>
    cases hs : t.sweep? k with
    | none =>
      simp only [step, hs]
      exact .keep rfl
    | some s =>
      by_cases hb : b ∈ s.pending <;> simp only [step, hs, hb, if_true, if_false] <;>
        exact .keep rfl
  | sweepEnd k =>
    cases hs : t.sweep? k with
    | none =>
      simp only [step, hs]
      exact .keep rfl
    | some s =>
      cases hd : s.done <;> simp only [step, hs, hd] <;> exact .keep rfl

theorem lease?_next (h : t.lease? k = some l) (he : e ≠ .release k) :
    (t.next e).lease? k = some l := by
  have m := next_leasing t e
  generalize t.next e = u at m
  cases m with
  | give _ => exact join_append h _
  | @give_back j _ _ =>
    have hkj : k ≠ j := fun heq => he (by rw [heq])
    show ((t.leases.set j none)[k]?).join = some l
    rw [join_set_other hkj]
    exact h
  | keep hsame =>
    show (u.leases[k]?).join = some l
    rw [hsame]
    exact h

theorem next_select {pool : Pool n} (h : t.pool.select = .ok (l, pool)) :
    t.next .select = { t with pool, leases := t.leases ++ [some l] } := by
  simp only [next, step, h]

theorem next_report (h : t.lease? k = some l) (o : Outcome) :
    t.next (.report k o) = { t with pool := t.pool.record l.backend o } := by
  simp only [next, step, h]

theorem next_release (h : t.lease? k = some l) :
    t.next (.release k) = { t with
      pool := t.pool.release l
      leases := t.leases.set k none } := by
  simp only [next, step, h]

/-- A lease that is given has the next number. -/
theorem lease?_given {pool : Pool n} (h : t.pool.select = .ok (l, pool)) :
    (t.next .select).lease? t.leases.length = some l := by
  simp [next_select h, lease?]

end Sluice.Traffic
