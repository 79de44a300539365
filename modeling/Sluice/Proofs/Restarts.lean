import Sluice.Proofs.LoopMoves

/-! Starting again while a loop of an earlier run is still there.

All loops look at one flag. A stop lowers it, but a loop notices only when it comes to test it, and
until then the next start raises it again. So a stop is final for a loop that comes to its end
before the next start, and for no other: where every start that spawns a loop finds the earlier ones
ended, one loop at a time can begin a cycle; and after the first start that does not, two can, one
of them spawned before the stop. -/
namespace Sluice.ProbeLoops
variable {p q : ProbeLoops} {e : Event} {a : Answer} {j k : Nat} {cause : Cause}

/-! ### Who can begin a cycle -/

/-- Unless there is another start, the loop may still begin a cycle. -/
def CanBegin (p : ProbeLoops) (k : Nat) : Prop :=
  ∃ events, .start ∉ events ∧ k ∈ (p.begun events).map Prod.fst

theorem CanBegin.of_next (he : e ≠ .start) (h : (p.next e).CanBegin k) : p.CanBegin k := by
  obtain ⟨events, hstart, hk⟩ := h
  refine ⟨e :: events, by simp [hstart, Ne.symm he], ?_⟩
  rw [begun, List.map_append]
  exact List.mem_append_right _ hk

theorem canBegin_of_testing (hr : p.running = true) (hk : p.phase? k = some (.testing cause)) :
    p.CanBegin k :=
  ⟨[.test k], by simp, by simp [begun_test hr hk]⟩

theorem canBegin_of_waiting (hr : p.running = true) (hk : p.phase? k = some .waiting) :
    p.CanBegin k := by
  have hnext : (p.next (.elapsed k)).phase? k = some (.testing .timer) := by
    simp only [next, step, hk]
    exact phase?_move_same (lt_length hk) _
  refine .of_next (e := .elapsed k) (by simp) (canBegin_of_testing ?_ hnext)
  simpa [next, step, hk, ProbeLoops.move] using hr

theorem canBegin_of_cycling (hr : p.running = true) (hk : p.phase? k = some (.cycling cause)) :
    p.CanBegin k := by
  refine .of_next (e := .cycled k) (by simp) ?_
  have hup : (p.next (.cycled k)).running = true := by
    cases hp : p.permit <;> simpa [next, step, hk, hp, ProbeLoops.move] using hr
  cases hp : p.permit with
  | true =>
    have hnext : (p.next (.cycled k)).phase? k = some (.testing .woken) := by
      simp only [next, step, hk, hp, if_true]
      exact phase?_move_same (lt_length hk) _
    exact canBegin_of_testing hup hnext
  | false =>
    have hnext : (p.next (.cycled k)).phase? k = some .waiting := by
      simp only [next, step, hk, hp]
      exact phase?_move_same (lt_length hk) _
    exact canBegin_of_waiting hup hnext

/-- Only a loop that is there begins a cycle, and only while the flag is up. -/
theorem Move.begun (m : Move p e a q) (hk : k ∈ (beginning e a).toList.map Prod.fst) :
    p.running = true ∧ p.Alive k := by
  cases m with
  | cycle hphase hr =>
    obtain rfl : k = _ := by simpa [beginning] using hk
    exact ⟨hr, _, hphase, by simp⟩
  | _ => simp [beginning] at hk

/-- Without a start no loop appears, and the flag stays down once it is. -/
theorem Move.running_alive (m : Move p e a q) (h : Sound p) (he : e ≠ .start)
    (hk : q.running = true ∧ q.Alive k) : p.running = true ∧ p.Alive k := by
  obtain ⟨_, hstop, hother⟩ := m.running
  refine ⟨?_, m.alive h he hk.2⟩
  by_cases hs : e = .stop
  · rw [hstop hs] at hk
    cases hk.1
  · rw [← hother he hs]
    exact hk.1

/-- The loops that may begin a cycle are all that have not ended, as long as the flag is up. -/
theorem canBegin_iff (h : Sound p) : p.CanBegin k ↔ p.running = true ∧ p.Alive k := by
  constructor
  · rintro ⟨events, hstart, hk⟩
    induction events generalizing p with
    | nil => cases hk
    | cons e rest ih =>
      rw [List.mem_cons, not_or] at hstart
      rw [ProbeLoops.begun, List.map_append, List.mem_append] at hk
      have m := step_move p e
      rcases hk with hk | hk
      · exact m.begun hk
      · exact m.running_alive h (Ne.symm hstart.1) (ih (h.next e) hstart.2 hk)
  · rintro ⟨hr, phase, hk, hphase⟩
    cases phase with
    | testing cause => exact canBegin_of_testing hr hk
    | cycling cause => exact canBegin_of_cycling hr hk
    | waiting => exact canBegin_of_waiting hr hk
    | ended => exact absurd rfl hphase

/-! ### Clean restarts -/

/-- All loops that were spawned have come to their end. -/
def allEnded (p : ProbeLoops) : Bool :=
  p.loops.all (· = .ended)

theorem allEnded_iff : p.allEnded = true ↔ ∀ k, ¬ p.Alive k := by
  simp only [allEnded, List.all_eq_true, decide_eq_true_eq, Alive, not_exists, not_and,
    Classical.not_not]
  constructor
  · intro h k phase hk
    exact h phase (List.mem_of_getElem? hk)
  · intro h phase hmem
    obtain ⟨k, hk⟩ := List.mem_iff_getElem?.mp hmem
    exact h k phase hk

theorem alive_append : Alive { p with running := true, loops := p.loops ++ [.testing .spawned] } k ↔
    p.Alive k ∨ k = p.loops.length := by
  simp only [Alive, phase?_spawn]
  split
  · next h => simp [h]
  · next h => simp [h]

/-- Where every spawning start finds the earlier loops ended, all but the last have ended. -/
theorem alive_last {events : List Event} (hclean : initial.spawnsWhere allEnded events = true)
    (hk : (initial.run events).Alive k) : k + 1 = (initial.run events).loops.length := by
  have hmove : ∀ (p : ProbeLoops) e a q, Sound p → Move p e a q →
      (e = .start → p.running = false → p.allEnded = true) →
      (∀ j, p.Alive j → j + 1 = p.loops.length) → ∀ j, q.Alive j → j + 1 = q.loops.length := by
    intro p e a q h m hspawn hlast j hj
    by_cases he : e = .start
    · subst he
      cases m with
      | spawn hr =>
        rcases alive_append.mp hj with hold | rfl
        · exact absurd hold (allEnded_iff.mp (hspawn rfl hr) j)
        · simp
      | startAgain _ => exact hlast j hj
      | notThere hs _ => exact absurd rfl hs
    · rw [m.length_eq he]
      exact hlast j (m.alive h he hj)
  have hstart : ∀ j, initial.Alive j → j + 1 = initial.loops.length := by
    rintro j ⟨phase, hphase, _⟩
    cases hphase
  exact run_keeps_state hmove sound_initial hclean hstart k hk

/-- There a loop that a stop has found, or found no more, does not begin a cycle again. -/
theorem stopped_stays (h : Sound p) {events : List Event}
    (hclean : p.spawnsWhere allEnded events = true) (hlt : k < p.loops.length)
    (hk : ¬ (p.running = true ∧ p.Alive k)) :
    ¬ ((p.run events).running = true ∧ (p.run events).Alive k) := by
  have hmove : ∀ (p : ProbeLoops) e a q, Sound p → Move p e a q →
      (e = .start → p.running = false → p.allEnded = true) →
      (k < p.loops.length ∧ ¬ (p.running = true ∧ p.Alive k)) →
      k < q.loops.length ∧ ¬ (q.running = true ∧ q.Alive k) := by
    rintro p e a q h m hspawn ⟨hlt, hk⟩
    by_cases he : e = .start
    · subst he
      cases m with
      | spawn hr =>
        refine ⟨by simp; omega, fun hnow => ?_⟩
        rcases alive_append.mp hnow.2 with hold | rfl
        · exact allEnded_iff.mp (hspawn rfl hr) k hold
        · exact absurd hlt (Nat.lt_irrefl _)
      | startAgain _ => exact ⟨hlt, hk⟩
      | notThere hs _ => exact absurd rfl hs
    · rw [m.length_eq he]
      exact ⟨hlt, fun hnow => hk (m.running_alive h he hnow)⟩
  exact (run_keeps_state hmove h hclean ⟨hlt, hk⟩).2

/-- Whoever finds the flag down was spawned before a stop, if not before the run. -/
theorem exists_stop {events : List Event} (hr : (p.run events).running = false)
    (hk : k < (p.run events).loops.length) :
    (p.running = false ∧ k < p.loops.length) ∨
      ∃ before after, events = before ++ .stop :: after ∧ k < (p.run before).loops.length := by
  induction events generalizing p with
  | nil => exact .inl ⟨hr, hk⟩
  | cons e rest ih =>
    rcases ih hr hk with ⟨hdown, hlt⟩ | ⟨before, after, rfl, hlt⟩
    · have m := step_move p e
      obtain ⟨hstart, _, hother⟩ := m.running
      by_cases hs : e = .start
      · rw [hstart hs] at hdown
        cases hdown
      · rw [m.length_eq hs] at hlt
        by_cases he : e = .stop
        · exact .inr ⟨[], rest, by rw [he]; rfl, hlt⟩
        · rw [hother hs he] at hdown
          exact .inl ⟨hdown, hlt⟩
    · exact .inr ⟨e :: before, after, rfl, hlt⟩

/-! ### Restarts -/

/-- A start while an earlier loop is there makes two that can begin a cycle. -/
theorem canBegin_start (h : Sound p) (hr : p.running = false) (hk : p.Alive k) :
    (p.next .start).CanBegin k ∧ (p.next .start).CanBegin p.loops.length := by
  rw [canBegin_iff (h.next .start), canBegin_iff (h.next .start), next_start hr]
  exact ⟨⟨rfl, alive_append.mpr (.inl hk)⟩, rfl, alive_append.mpr (.inr rfl)⟩

/-- A restart that is not clean finds a loop that was spawned before a stop. -/
theorem exists_unclean {events : List Event} (h : initial.spawnsWhere allEnded events ≠ true) :
    ∃ before between after k, events = before ++ .stop :: (between ++ .start :: after) ∧
      k < (initial.run before).loops.length ∧
      (((initial.run before).next .stop).run between).running = false ∧
      (((initial.run before).next .stop).run between).Alive k := by
  obtain ⟨earlier, after, rfl, hr, hbad⟩ := exists_spawn h
  have hsome : ¬ ∀ k, ¬ (initial.run earlier).Alive k := by
    rw [← allEnded_iff, hbad]
    simp
  obtain ⟨k, hk⟩ := Classical.not_forall_not.mp hsome
  obtain ⟨phase, hphase, hne⟩ := hk
  rcases exists_stop hr (lt_length hphase) with ⟨_, hlt⟩ | ⟨before, between, rfl, hlt⟩
  · exact absurd hlt (Nat.not_lt_zero k)
  · rw [run_append] at hr hphase
    exact ⟨before, between, after, k, by simp, hlt, hr, phase, hphase, hne⟩

/-- **A stop is final exactly where restarts are clean.** No loop spawned before a stop can begin a
cycle after it, whatever starts follow, if and only if every start that spawns a loop finds all
earlier ones ended; and so it is with there being one loop at most, at any moment, that can. -/
theorem stop_final_iff_clean (events : List Event) :
    ((∀ before between after, events = before ++ .stop :: (between ++ after) →
        ∀ k < (initial.run before).loops.length,
          ¬ (((initial.run before).next .stop).run between).CanBegin k) ↔
      initial.spawnsWhere allEnded events = true) ∧
    ((∀ before after, events = before ++ after → ∀ j k, (initial.run before).CanBegin j →
        (initial.run before).CanBegin k → j = k) ↔
      initial.spawnsWhere allEnded events = true) := by
  have hsound : ∀ events, Sound (initial.run events) := sound_initial.run
  have hstopped : ∀ before between, Sound (((initial.run before).next .stop).run between) :=
    fun before between => ((hsound before).next .stop).run between
  refine ⟨⟨fun hfinal => ?_, ?_⟩, ⟨fun hone => ?_, ?_⟩⟩
  · refine Decidable.byContradiction fun hunclean => ?_
    obtain ⟨before, between, after, k, rfl, hlt, hr, hk⟩ := exists_unclean hunclean
    have hbegin := (canBegin_start (hstopped before between) hr hk).1
    refine hfinal before (between ++ [.start]) after (by simp) k hlt ?_
    rw [run_append]
    exact hbegin
  · rintro hclean before between after rfl k hlt
    rw [spawnsWhere_append, spawnsWhere, spawnsWhere_append] at hclean
    simp only [Bool.and_eq_true] at hclean
    have m := step_move (initial.run before) .stop
    have hdown : ¬ (((initial.run before).next .stop).running = true ∧
        ((initial.run before).next .stop).Alive k) := by
      rw [m.running.2.1 rfl]
      simp
    rw [canBegin_iff (hstopped before between)]
    refine stopped_stays ((hsound before).next .stop) hclean.2.2.1 ?_ hdown
    rw [m.length_eq (by simp)]
    exact hlt
  · refine Decidable.byContradiction fun hunclean => ?_
    obtain ⟨before, between, after, k, rfl, _, hr, hk⟩ := exists_unclean hunclean
    obtain ⟨hold, hnew⟩ := canBegin_start (hstopped before between) hr hk
    have hstate : initial.run (before ++ .stop :: (between ++ [.start])) =
        (((initial.run before).next .stop).run between).next .start := by
      rw [run_append]
      exact run_append ((initial.run before).next .stop) between [.start]
    have heq := hone (before ++ .stop :: (between ++ [.start])) after (by simp) k _
      (hstate ▸ hold) (hstate ▸ hnew)
    obtain ⟨phase, hphase, _⟩ := hk
    exact absurd heq (Nat.ne_of_lt (lt_length hphase))
  · rintro hclean before after rfl j k hj hk
    rw [spawnsWhere_append, Bool.and_eq_true] at hclean
    have hlast := alive_last hclean.1 ((canBegin_iff (hsound before)).mp hj).2
    have hlast' := alive_last hclean.1 ((canBegin_iff (hsound before)).mp hk).2
    omega

/-- Stopped and started again before its loop has had a turn: two loops begin a cycle, the old one
first. -/
theorem old_loop_begins_after_stop :
    let p := initial.run [.start]
    0 < p.loops.length ∧
      (p.next .stop).begun [.start, .test 0, .test 1] = [(0, .spawned), (1, .spawned)] := by
  decide

end Sluice.ProbeLoops
