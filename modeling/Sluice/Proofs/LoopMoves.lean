import Sluice.ProbeLoops

/-! What one event does to the loops that probe.

`Move` lists what can happen, and `step_move` says that nothing else does. Loops wait in the queue
and nowhere else (`Sound`), so a wake-up never reaches a loop that has ended, and what has ended
stays so. `begun` is the log of a run: every cycle that begins, with its loop and with what let the
loop test the flag. -/
namespace Sluice.ProbeLoops
variable {p : ProbeLoops}

/-! ### Phases -/

theorem lt_length {k : Nat} {phase : Phase} (h : p.phase? k = some phase) : k < p.loops.length := by
  obtain ⟨hk, _⟩ := List.getElem?_eq_some_iff.mp h
  exact hk

theorem phase?_move {k : Nat} (hk : k < p.loops.length) (x : Phase) (j : Nat) :
    (p.move k x).phase? j = if j = k then some x else p.phase? j := by
  split
  · next h =>
    subst h
    exact List.getElem?_set_self hk
  · next h => exact List.getElem?_set_ne (Ne.symm h)

theorem phase?_move_same {k : Nat} (hk : k < p.loops.length) (x : Phase) :
    (p.move k x).phase? k = some x :=
  (phase?_move hk x k).trans (if_pos rfl)

/-- A loop that is spawned is the last one. -/
theorem phase?_spawn (j : Nat) :
    phase? { p with running := true, loops := p.loops ++ [.testing .spawned] } j =
      if j = p.loops.length then some (.testing .spawned) else p.phase? j := by
  unfold phase?
  split
  · next h =>
    subst h
    exact List.getElem?_concat_length
  · next h =>
    by_cases hj : j < p.loops.length
    · exact List.getElem?_append_left hj
    · rw [List.getElem?_eq_none (Nat.le_of_not_lt hj), List.getElem?_eq_none]
      simp only [List.length_append, List.length_singleton]
      omega

/-! ### Moves -/

inductive Move (p : ProbeLoops) : Event → Answer → ProbeLoops → Prop where
  | spawn : p.running = false →
      Move p .start (.spawned p.loops.length)
        { p with running := true, loops := p.loops ++ [.testing .spawned] }
  /-- Nobody waits, so the wake-up is kept. -/
  | keep : p.running = true → p.queue = [] →
      Move p .stop .stopped { p with running := false, permit := true }
  | wake {k rest} : p.running = true → p.queue = k :: rest →
      Move p .stop .stopped { p.move k (.testing .woken) with running := false, queue := rest }
  | cycle {k cause} : p.phase? k = some (.testing cause) → p.running = true →
      Move p (.test k) (.cycle cause) (p.move k (.cycling cause))
  | finish {k cause} : p.phase? k = some (.testing cause) → p.running = false →
      Move p (.test k) .ended (p.move k .ended)
  /-- A wake-up that was kept ends the wait before it has begun. -/
  | take {k cause} : p.phase? k = some (.cycling cause) → p.permit = true →
      Move p (.cycled k) .woken { p.move k (.testing .woken) with permit := false }
  | wait {k cause} : p.phase? k = some (.cycling cause) → p.permit = false →
      Move p (.cycled k) .waiting { p.move k .waiting with queue := p.queue ++ [k] }
  | elapse {k} : p.phase? k = some .waiting →
      Move p (.elapsed k) .woken { p.move k (.testing .timer) with queue := p.queue.erase k }
  | startAgain : p.running = true → Move p .start .alreadyRunning p
  | stopAgain : p.running = false → Move p .stop .notRunning p
  | notThere {e} : e ≠ .start → e ≠ .stop → Move p e .notThere p

/-- Every step is a move. -/
theorem step_move (p : ProbeLoops) (e : Event) : Move p e (p.step e).1 (p.next e) := by
  unfold next
  cases e with
  | start =>
    cases hr : p.running with
    | true =>
      simp only [step, hr, if_true]
      exact .startAgain hr
    | false =>
      simp only [step, hr]
      exact .spawn hr
  | stop =>
    cases hr : p.running with
    | false =>
      simp only [step, hr]
      exact .stopAgain hr
    | true =>
      cases hq : p.queue with
      | nil =>
        simp only [step, hr, if_true, ProbeLoops.wake, hq]
        exact hq ▸ .keep hr hq
      | cons k rest =>
        simp only [step, hr, if_true, ProbeLoops.wake, hq]
        exact .wake hr hq
  | test k =>
    simp only [step]
    split
    · next cause hk =>
      cases hr : p.running with
      | true => exact .cycle hk hr
      | false => exact .finish hk hr
    · exact .notThere (by simp) (by simp)
  | cycled k =>
    simp only [step]
    split
    · next cause hk =>
      cases hp : p.permit with
      | true => exact .take hk hp
      | false => exact .wait hk hp
    · exact .notThere (by simp) (by simp)
  | elapsed k =>
    simp only [step]
    split
    · next hk => exact .elapse hk
    · exact .notThere (by simp) (by simp)

theorem next_start (hr : p.running = false) : p.next .start =
    { p with running := true, loops := p.loops ++ [.testing .spawned] } := by
  simp [next, step, hr]

variable {q : ProbeLoops} {e : Event} {a : Answer} {j k : Nat}

/-! ### Waiting -/

/-- The queue holds the loops that wait, each once. -/
structure Sound (p : ProbeLoops) : Prop where
  queued : ∀ k, k ∈ p.queue ↔ p.phase? k = some .waiting
  nodup : p.queue.Nodup

theorem sound_initial : Sound initial where
  queued := by simp [initial, phase?]
  nodup := .nil

/-- A loop that neither waited before nor waits now. -/
theorem Sound.queued_move (h : Sound p) {old new : Phase} (hk : p.phase? k = some old)
    (hold : old ≠ .waiting) (hnew : new ≠ .waiting) (j : Nat) :
    j ∈ p.queue ↔ (p.move k new).phase? j = some .waiting := by
  rw [phase?_move (lt_length hk), h.queued j]
  split
  · next hj =>
    subst hj
    simp [hk, hold, hnew]
  · rfl

/-- A loop that leaves the queue. -/
theorem Sound.queued_leave (h : Sound p) {new : Phase} (hk : k ∈ p.queue) (hnew : new ≠ .waiting)
    {rest : List Nat} (hrest : ∀ j, j ∈ rest ↔ j ≠ k ∧ j ∈ p.queue) (j : Nat) :
    j ∈ rest ↔ (p.move k new).phase? j = some .waiting := by
  rw [phase?_move (lt_length ((h.queued k).mp hk)), hrest, h.queued j]
  split
  · next hj => simp [hj, hnew]
  · next hj => simp [hj]

theorem Sound.move (h : Sound p) (m : Move p e a q) : Sound q := by
  cases m with
  | spawn _ =>
    refine ⟨fun j => ?_, h.nodup⟩
    rw [h.queued j, phase?_spawn]
    split
    · next hj =>
      subst hj
      simp [phase?]
    · rfl
  | keep _ _ => exact ⟨h.queued, h.nodup⟩
  | @wake k rest _ hq =>
    have hnodup := h.nodup
    rw [hq] at hnodup
    obtain ⟨hk, hrest⟩ := List.nodup_cons.mp hnodup
    refine ⟨h.queued_leave (k := k) (by simp [hq]) (by simp) fun j => ?_, hrest⟩
    rw [hq, List.mem_cons]
    grind
  | cycle hk _ => exact ⟨h.queued_move hk (by simp) (by simp), h.nodup⟩
  | finish hk _ => exact ⟨h.queued_move hk (by simp) (by simp), h.nodup⟩
  | take hk _ => exact ⟨h.queued_move hk (by simp) (by simp), h.nodup⟩
  | @wait k cause hk _ =>
    have hout : k ∉ p.queue := fun hmem => by
      rw [h.queued, hk] at hmem
      cases hmem
    refine ⟨fun j => ?_, ?_⟩
    · show j ∈ p.queue ++ [k] ↔ (p.move k .waiting).phase? j = some .waiting
      rw [phase?_move (lt_length hk), List.mem_append, h.queued j, List.mem_singleton]
      split
      · next hj => simp [hj]
      · next hj => simp [hj]
    · exact List.nodup_append.mpr ⟨h.nodup, by simp, by grind⟩
  | @elapse k hk =>
    refine ⟨h.queued_leave ((h.queued k).mpr hk) (by simp) fun j => ?_, h.nodup.erase k⟩
    exact h.nodup.mem_erase_iff
  | startAgain _ | stopAgain _ | notThere _ _ => exact h

theorem Sound.next (h : Sound p) (e : Event) : Sound (p.next e) :=
  h.move (step_move p e)

theorem Sound.run (h : Sound p) (events : List Event) : Sound (p.run events) := by
  induction events generalizing p with
  | nil => exact h
  | cons e rest ih => exact ih (h.next e)

/-! ### What only a start changes -/

/-- The loop has been spawned and has not come to its end. -/
def Alive (p : ProbeLoops) (k : Nat) : Prop :=
  ∃ phase, p.phase? k = some phase ∧ phase ≠ .ended

theorem alive_move (hk : k < p.loops.length) {new : Phase} (hj : (p.move k new).Alive j)
    (halive : p.Alive k) : p.Alive j := by
  obtain ⟨phase, hphase, hne⟩ := hj
  rw [phase?_move hk] at hphase
  split at hphase
  · next heq => exact heq ▸ halive
  · exact ⟨phase, hphase, hne⟩

/-- Nothing but a start spawns a loop, and nothing brings one back that has ended. -/
theorem Move.alive (m : Move p e a q) (h : Sound p) (he : e ≠ .start) (hj : q.Alive j) :
    p.Alive j := by
  cases m with
  | spawn _ | startAgain _ => exact absurd rfl he
  | keep _ _ | stopAgain _ | notThere _ _ => exact hj
  | @wake k rest _ hq =>
    have hk : p.phase? k = some .waiting := (h.queued k).mp (by simp [hq])
    exact alive_move (lt_length hk) hj ⟨_, hk, by simp⟩
  | cycle hk _ | finish hk _ | take hk _ | wait hk _ | elapse hk =>
    exact alive_move (lt_length hk) hj ⟨_, hk, by simp⟩

theorem Move.length_eq (m : Move p e a q) (he : e ≠ .start) :
    q.loops.length = p.loops.length := by
  cases m with
  | spawn _ | startAgain _ => exact absurd rfl he
  | _ => simp [ProbeLoops.move]

/-- Only a start raises the flag, and only a stop lowers it. -/
theorem Move.running (m : Move p e a q) :
    (e = .start → q.running = true) ∧ (e = .stop → q.running = false) ∧
      (e ≠ .start → e ≠ .stop → q.running = p.running) := by
  cases m <;> simp_all [ProbeLoops.move]

/-! ### Runs -/

theorem run_append (p : ProbeLoops) (a b : List Event) : p.run (a ++ b) = (p.run a).run b := by
  induction a generalizing p with
  | nil => rfl
  | cons e rest ih => exact ih _

/-- The cycle that an event begins, with what let its loop test the flag. -/
def beginning : Event → Answer → Option (Nat × Cause)
  | .test k, .cycle cause => some (k, cause)
  | _, _ => none

@[simp] theorem beginning_notThere (e : Event) : beginning e .notThere = none := by
  cases e <;> rfl

/-- All cycles that a run begins, in order. -/
def begun (p : ProbeLoops) : List Event → List (Nat × Cause)
  | [] => []
  | e :: rest => (beginning e (p.step e).1).toList ++ begun (p.next e) rest

theorem begun_append (p : ProbeLoops) (a b : List Event) :
    p.begun (a ++ b) = p.begun a ++ (p.run a).begun b := by
  induction a generalizing p with
  | nil => rfl
  | cons e rest ih =>
    show (beginning e (p.step e).1).toList ++ begun (p.next e) (rest ++ b) = _
    rw [ih, ← List.append_assoc]
    rfl

/-- A loop that finds the flag up begins a cycle. -/
theorem begun_test {cause : Cause} (hr : p.running = true)
    (hk : p.phase? k = some (.testing cause)) (rest : List Event) :
    p.begun (.test k :: rest) = (k, cause) :: (p.move k (.cycling cause)).begun rest := by
  have hstep : p.step (.test k) = (.cycle cause, p.move k (.cycling cause)) := by
    simp [step, hk, hr]
  rw [begun, next, hstep]
  rfl

/-- Whether every start that spawns a loop comes when `ok` holds. -/
def spawnsWhere (ok : ProbeLoops → Bool) (p : ProbeLoops) : List Event → Bool
  | [] => true
  | e :: rest => (e ≠ .start || p.running || ok p) && spawnsWhere ok (p.next e) rest

theorem spawnsWhere_append (ok : ProbeLoops → Bool) (p : ProbeLoops) (a b : List Event) :
    p.spawnsWhere ok (a ++ b) = (p.spawnsWhere ok a && (p.run a).spawnsWhere ok b) := by
  induction a generalizing p with
  | nil => rfl
  | cons e rest ih =>
    show (_ && spawnsWhere ok (p.next e) (rest ++ b)) = _
    rw [ih, ← Bool.and_assoc]
    rfl

theorem spawnsWhere_true (p : ProbeLoops) (events : List Event) :
    p.spawnsWhere (fun _ => true) events = true := by
  induction events generalizing p with
  | nil => rfl
  | cons e rest ih => simp [spawnsWhere, ih]

theorem spawnsWhere_of_not_mem (ok : ProbeLoops → Bool) (p : ProbeLoops) {events : List Event}
    (h : .start ∉ events) : p.spawnsWhere ok events = true := by
  induction events generalizing p with
  | nil => rfl
  | cons e rest ih =>
    rw [List.mem_cons, not_or] at h
    obtain ⟨he, hrest⟩ := h
    simp [spawnsWhere, Ne.symm he, ih _ hrest]

/-- Else there is a start that does not. -/
theorem exists_spawn {ok : ProbeLoops → Bool} {events : List Event}
    (h : p.spawnsWhere ok events ≠ true) : ∃ before after, events = before ++ .start :: after ∧
      (p.run before).running = false ∧ ok (p.run before) = false := by
  induction events generalizing p with
  | nil => exact absurd rfl h
  | cons e rest ih =>
    by_cases hnow : (e ≠ .start || p.running || ok p) = true
    · rw [spawnsWhere, hnow, Bool.true_and] at h
      obtain ⟨before, after, rfl, hlater⟩ := ih h
      exact ⟨e :: before, after, rfl, hlater⟩
    · simp only [ne_eq, Bool.or_eq_true, decide_eq_true_eq, not_or, Classical.not_not,
        Bool.not_eq_true] at hnow
      obtain ⟨⟨rfl, hdown⟩, hbad⟩ := hnow
      exact ⟨[], rest, rfl, hdown, hbad⟩

/-- What every move keeps of a state and of the log so far, if loops are spawned only where `ok`
holds, is kept by a run that spawns them only there. -/
theorem run_keeps {ok : ProbeLoops → Bool} {I : ProbeLoops → List (Nat × Cause) → Prop}
    (hmove : ∀ p e a q log, Sound p → Move p e a q →
      (e = .start → p.running = false → ok p = true) → I p log →
      I q (log ++ (beginning e a).toList))
    (h : Sound p) {events : List Event} (hok : p.spawnsWhere ok events = true)
    (log : List (Nat × Cause)) (hI : I p log) : I (p.run events) (log ++ p.begun events) := by
  induction events generalizing p log with
  | nil => simpa [run, begun] using hI
  | cons e rest ih =>
    rw [spawnsWhere, Bool.and_eq_true] at hok
    have hspawn : e = .start → p.running = false → ok p = true := by
      rintro rfl hdown
      simpa [hdown] using hok.1
    have hnext := hmove p e _ _ log h (step_move p e) hspawn hI
    rw [begun, ← List.append_assoc]
    exact ih (h.next e) hok.2 _ hnext

/-- The same for what does not depend on the log. -/
theorem run_keeps_state {ok : ProbeLoops → Bool} {I : ProbeLoops → Prop}
    (hmove : ∀ p e a q, Sound p → Move p e a q → (e = .start → p.running = false → ok p = true) →
      I p → I q)
    (h : Sound p) {events : List Event} (hok : p.spawnsWhere ok events = true) (hI : I p) :
    I (p.run events) :=
  run_keeps (I := fun p _ => I p) (fun p e a q _ => hmove p e a q) h hok [] hI

end Sluice.ProbeLoops
