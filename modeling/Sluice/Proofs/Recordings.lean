import Sluice.Pool.Traffic

/-! What traffic puts on record, and who stands behind it.

The standings of a pool keep the last outcome of each backend and forget where it came from. The
`history` of a run keeps every outcome, in order, with its source. Nothing but a recording changes a
standing (`standings_next`), so the standings after a run are what its history says last of each
backend (`standings_run`).

In service every outcome comes from a request through its lease, or from a probe of a sweep;
`attributed` tells those events from the ones that put an outcome on record out of nowhere. -/
namespace Sluice.Traffic
variable {n : Nat} {t : Traffic n}

/-- Who puts an outcome on record. -/
inductive Source where
  | lease (number : Nat)
  | sweep (number : Nat)
  | outside
deriving DecidableEq, Repr

structure Recording (n : Nat) where
  source : Source
  backend : Fin n
  outcome : Outcome
deriving DecidableEq, Repr

/-- A lease or a sweep stands behind the outcome, if there is one. -/
def Event.attributed : Event n → Bool
  | .record _ _ => false
  | _ => true

/-- What an event puts on record, unless it is refused. -/
def recording (t : Traffic n) : Event n → Option (Recording n)
  | .report k o => (t.lease? k).map fun l => ⟨.lease k, l.backend, o⟩
  | .record b o => some ⟨.outside, b, o⟩
  | .sweepProbe k b o =>
    (t.sweep? k).bind fun s => if s.pending.contains b then some ⟨.sweep k, b, o⟩ else none
  | _ => none

theorem append_recording_none {e : Event n} (h : t.recording e = none)
    (log : List (Recording n)) : log ++ (t.recording e).toList = log := by
  rw [h]
  exact List.append_nil log

/-- All that a run puts on record, in order. -/
def history (t : Traffic n) : List (Event n) → List (Recording n)
  | [] => []
  | e :: rest => (t.recording e).toList ++ history (t.next e) rest

theorem history_append (t : Traffic n) (a b : List (Event n)) :
    history t (a ++ b) = history t a ++ history (run t a) b := by
  induction a generalizing t with
  | nil => rfl
  | cons e rest ih =>
    show (t.recording e).toList ++ history (t.next e) (rest ++ b) = _
    rw [ih, ← List.append_assoc]
    rfl

/-! ### The last recording on a backend -/

def lastOn (b : Fin n) (log : List (Recording n)) : Option (Recording n) :=
  log.findRev? fun r => r.backend = b

theorem lastOn_append_same {b : Fin n} {r : Recording n} (h : r.backend = b)
    (log : List (Recording n)) : lastOn b (log ++ [r]) = some r := by
  simp [lastOn, h]

theorem lastOn_append_other {b : Fin n} {r : Recording n} (h : r.backend ≠ b)
    (log : List (Recording n)) : lastOn b (log ++ [r]) = lastOn b log := by
  simp [lastOn, h]

/-- The standing a log leaves a backend in, from the one it had before. -/
def standingAfter (s : Standings n) (log : List (Recording n)) (b : Fin n) : Standing :=
  match lastOn b log with
  | some r => .ofOutcome r.outcome
  | none => s.get b

/-- The standings with one more recording, if there is one. -/
def recorded (s : Standings n) : Option (Recording n) → Standings n
  | some r => s.record r.backend r.outcome
  | none => s

theorem standingAfter_append {s u : Standings n} {log : List (Recording n)}
    (h : ∀ b : Fin n, u.get b = standingAfter s log b) (r : Option (Recording n)) (b : Fin n) :
    (recorded u r).get b = standingAfter s (log ++ r.toList) b := by
  cases r with
  | none => simpa [recorded] using h b
  | some r =>
    by_cases hb : r.backend = b
    · subst hb
      show (u.record r.backend r.outcome).get r.backend = standingAfter s (log ++ [r]) r.backend
      rw [Standings.record_same, standingAfter, lastOn_append_same rfl]
    · have hother : (u.record r.backend r.outcome).get b = u.get b :=
        Standings.record_other r.outcome (Ne.symm hb)
      rw [recorded, hother, h b]
      simp only [Option.toList, standingAfter, lastOn_append_other hb]

/-! ### Standings change by recordings alone -/

theorem select_standings {p q : Pool n} {l : Lease n} (h : p.select = .ok (l, q)) :
    q.standings = p.standings := by
  unfold Pool.select at h
  split at h
  · cases hs : Rotation.select p.standings _ with
    | error e =>
      rw [hs] at h
      cases h
    | ok taken =>
      rw [hs] at h
      cases h
      rfl
  · next q' _ =>
    cases hs : q'.checkOut with
    | error e =>
      rw [hs] at h
      cases h
    | ok taken =>
      rw [hs] at h
      cases h
      rfl

theorem release_standings (p : Pool n) (l : Lease n) : (p.release l).standings = p.standings := by
  unfold Pool.release
  split <;> rfl

theorem reclassify_standings (p : Pool n) : p.reclassify.standings = p.standings := by
  unfold Pool.reclassify
  split <;> rfl

theorem finishSweep_standings (p : Pool n) (results : List Health) :
    (p.finishSweep results).2.standings = p.standings := by
  unfold Pool.finishSweep
  split <;> rfl

theorem standings_next (t : Traffic n) (e : Event n) :
    (t.next e).pool.standings = recorded t.pool.standings (t.recording e) := by
  cases e with
  | select =>
    cases hs : t.pool.select with
    | error e => simp [next, step, hs, recording, recorded]
    | ok taken => simpa [next, step, hs, recording, recorded] using select_standings hs
  | report k o => cases hl : t.lease? k <;> simp [next, step, hl, recording, recorded, Pool.record]
  | release k =>
    cases hl : t.lease? k <;> simp [next, step, hl, recording, recorded, release_standings]
  | record b o => rfl
  | reclassify => exact reclassify_standings t.pool
  | sweepBegin => rfl
  | sweepProbe k b o =>
    cases hs : t.sweep? k with
    | none => simp [next, step, hs, recording, recorded]
    | some s =>
      by_cases hb : b ∈ s.pending <;> simp [next, step, hs, hb, recording, recorded, Pool.record]
  | sweepEnd k =>
    cases hs : t.sweep? k with
    | none => simp [next, step, hs, recording, recorded]
    | some s =>
      cases hd : s.done <;> simp [next, step, hs, hd, recording, recorded, finishSweep_standings]

/-! ### Runs -/

/-- What every step keeps of a state and of the log so far, a run keeps of its end and its history,
as long as its events are of the kind that the step was shown for. -/
theorem run_keeps {A : Event n → Prop} {I : Traffic n → List (Recording n) → Prop}
    (hstep : ∀ t log e, A e → I t log → I (t.next e) (log ++ (t.recording e).toList))
    (events : List (Event n)) (ha : ∀ e ∈ events, A e) {log : List (Recording n)} (h : I t log) :
    I (t.run events) (log ++ t.history events) := by
  induction events generalizing t log with
  | nil => simpa [history, run] using h
  | cons e rest ih =>
    have hnext := hstep t log e (ha e List.mem_cons_self) h
    have hrest := ih (fun e he => ha e (List.mem_cons_of_mem _ he)) hnext
    rwa [List.append_assoc] at hrest

/-- **The standings after a run are the last that its history says of each backend**, and those of
before where it says nothing. -/
theorem standings_run (t : Traffic n) (events : List (Event n)) (b : Fin n) :
    (t.run events).pool.standings.get b = standingAfter t.pool.standings (t.history events) b := by
  have hstep : ∀ (u : Traffic n) (log : List (Recording n)) (e : Event n), True →
      (∀ c : Fin n, u.pool.standings.get c = standingAfter t.pool.standings log c) →
      ∀ c : Fin n, (u.next e).pool.standings.get c =
        standingAfter t.pool.standings (log ++ (u.recording e).toList) c := by
    intro u log e _ h c
    rw [standings_next]
    exact standingAfter_append h (u.recording e) c
  have hstart : ∀ c : Fin n, t.pool.standings.get c = standingAfter t.pool.standings [] c :=
    fun _ => rfl
  exact run_keeps hstep events (fun _ _ => trivial) hstart b

end Sluice.Traffic
