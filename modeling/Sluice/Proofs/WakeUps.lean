import Sluice.Proofs.LoopMoves

/-! What ends the wait between two cycles.

A stop wakes a loop so that it finds the flag down and ends. The wake-up may outlive its stop: it is
kept where no loop was waiting, or its loop has not had its turn yet. A start that finds one pending
raises the flag, and the loop that has it, or takes it, begins a cycle ahead of its timer. Where no
start does, every cycle of a loop but its first is due to the loop's own timer. -/
namespace Sluice.ProbeLoops
variable {p q : ProbeLoops} {e : Event} {a : Answer} {k : Nat} {cause : Cause}
  {log : List (Nat × Cause)}

/-! ### The first cycle and those after it -/

/-- Of two cycles of one loop, the later was begun by the loop's timer. -/
def Punctual (log : List (Nat × Cause)) : Prop :=
  log.Pairwise fun earlier later => earlier.1 = later.1 → later.2 = .timer

theorem punctual_append : Punctual (log ++ [(k, cause)]) ↔
    Punctual log ∧ (k ∈ log.map Prod.fst → cause = .timer) := by
  simp only [Punctual, List.pairwise_append, List.pairwise_singleton, List.mem_singleton, true_and]
  constructor
  · rintro ⟨hlog, hlast⟩
    refine ⟨hlog, fun hk => ?_⟩
    obtain ⟨x, hx, hxk⟩ := List.mem_map.mp hk
    exact hlast x hx _ rfl hxk
  · rintro ⟨hlog, hlast⟩
    refine ⟨hlog, fun x hx _ hlater hxk => ?_⟩
    subst hlater
    exact hlast (List.mem_map.mpr ⟨x, hx, hxk⟩)

/-- The log of a run up to here: a loop that has yet to test the flag for the first time is not in
it, and one that has been past that is. -/
structure Logged (p : ProbeLoops) (log : List (Nat × Cause)) : Prop where
  known : ∀ j ∈ log.map Prod.fst, j < p.loops.length
  first : ∀ k, p.phase? k = some (.testing .spawned) → k ∉ log.map Prod.fst
  later : ∀ k phase, p.phase? k = some phase → phase ≠ .testing .spawned → phase ≠ .ended →
    k ∈ log.map Prod.fst

theorem logged_initial : Logged initial [] where
  known := by simp
  first := by simp
  later := by simp [initial, phase?]

/-- A loop goes on, or ends, and nothing is begun. -/
theorem Logged.advance (h : Logged p log) {old : Phase} (hk : p.phase? k = some old) (new : Phase)
    (hnew : new ≠ .testing .spawned)
    (hold : new = .ended ∨ old ≠ .testing .spawned ∧ old ≠ .ended) :
    Logged (p.move k new) log where
  known := by simpa [ProbeLoops.move] using h.known
  first := by
    intro j hj
    rw [phase?_move (lt_length hk)] at hj
    split at hj
    · exact absurd (Option.some.inj hj) hnew
    · exact h.first j hj
  later := by
    intro j phase hj hspawned hended
    rw [phase?_move (lt_length hk)] at hj
    split at hj
    · next heq =>
      rcases hold with hold | hold
      · exact absurd (Option.some.inj hj ▸ hold) hended
      · exact heq ▸ h.later k old hk hold.1 hold.2
    · exact h.later j phase hj hspawned hended

theorem Logged.spawn (h : Logged p log) :
    Logged { p with running := true, loops := p.loops ++ [.testing .spawned] } log where
  known := by
    intro j hj
    have := h.known j hj
    simp only [List.length_append, List.length_singleton]
    omega
  first := by
    intro j hj
    rw [phase?_spawn] at hj
    split at hj
    · next heq =>
      subst heq
      exact fun hmem => absurd (h.known _ hmem) (Nat.lt_irrefl _)
    · exact h.first j hj
  later := by
    intro j phase hj hspawned hended
    rw [phase?_spawn] at hj
    split at hj
    · exact absurd (Option.some.inj hj).symm hspawned
    · exact h.later j phase hj hspawned hended

theorem Logged.cycle (h : Logged p log) (hk : p.phase? k = some (.testing cause)) :
    Logged (p.move k (.cycling cause)) (log ++ [(k, cause)]) where
  known := by
    intro j hj
    simp only [List.map_append, List.mem_append, List.map_cons, List.map_nil,
      List.mem_singleton] at hj
    rcases hj with hj | rfl
    · simpa [ProbeLoops.move] using h.known j hj
    · simpa [ProbeLoops.move] using lt_length hk
  first := by
    intro j hj
    rw [phase?_move (lt_length hk)] at hj
    split at hj
    · cases hj
    · next hne => simpa [hne] using h.first j hj
  later := by
    intro j phase hj hspawned hended
    rw [phase?_move (lt_length hk)] at hj
    rw [List.map_append, List.mem_append]
    split at hj
    · next heq => exact .inr (by simp [heq])
    · exact .inl (h.later j phase hj hspawned hended)

theorem Logged.of_loops (h : Logged p log) (hq : q.loops = p.loops) : Logged q log where
  known := hq ▸ h.known
  first := fun k hk => h.first k (by rwa [phase?, ← hq])
  later := fun k phase hk => h.later k phase (by rwa [phase?, ← hq])

theorem Logged.move (h : Logged p log) (hs : Sound p) (m : Move p e a q) :
    Logged q (log ++ (beginning e a).toList) := by
  have quiet : ∀ {e a} {q : ProbeLoops}, beginning e a = none → Logged q log →
      Logged q (log ++ (beginning e a).toList) := fun hnone hq => by simpa [hnone] using hq
  cases m with
  | cycle hk _ => exact h.cycle hk
  | spawn _ => exact quiet rfl h.spawn
  | keep _ _ => exact quiet rfl (h.of_loops rfl)
  | @wake k rest _ hq =>
    have hk : p.phase? k = some .waiting := (hs.queued k).mp (by simp [hq])
    have hwoken := h.advance hk (.testing .woken) (by simp) (.inr (by simp))
    exact quiet rfl (hwoken.of_loops rfl)
  | finish hk _ => exact quiet rfl (h.advance hk .ended (by simp) (.inl rfl))
  | take hk _ =>
    exact quiet rfl ((h.advance hk (.testing .woken) (by simp) (.inr (by simp))).of_loops rfl)
  | wait hk _ =>
    exact quiet rfl ((h.advance hk .waiting (by simp) (.inr (by simp))).of_loops rfl)
  | elapse hk =>
    exact quiet rfl ((h.advance hk (.testing .timer) (by simp) (.inr (by simp))).of_loops rfl)
  | startAgain _ | stopAgain _ => exact quiet rfl h
  | notThere _ _ => exact quiet (beginning_notThere e) h

/-! ### Starts that find no wake-up pending -/

/-- No wake-up is kept, and no loop has had one and not yet its turn. -/
def undisturbed (p : ProbeLoops) : Bool :=
  !p.permit && p.loops.all (· ≠ .testing .woken)

theorem undisturbed_iff : p.undisturbed = true ↔
    p.permit = false ∧ ∀ k, p.phase? k ≠ some (.testing .woken) := by
  simp only [undisturbed, Bool.and_eq_true, Bool.not_eq_true', List.all_eq_true,
    decide_eq_true_eq]
  refine and_congr_right fun _ => ⟨fun h k hk => ?_, fun h phase hmem hphase => ?_⟩
  · exact h _ (List.mem_of_getElem? hk) rfl
  · obtain ⟨k, hk⟩ := List.mem_iff_getElem?.mp hmem
    exact h k (hphase ▸ hk)

theorem undisturbed_move (h : p.undisturbed = true) (hk : k < p.loops.length) (new : Phase)
    (hnew : new ≠ .testing .woken) : (p.move k new).undisturbed = true := by
  obtain ⟨hpermit, hloops⟩ := undisturbed_iff.mp h
  refine undisturbed_iff.mpr ⟨hpermit, fun j hj => ?_⟩
  rw [phase?_move hk] at hj
  split at hj
  · exact hnew (Option.some.inj hj)
  · exact hloops j hj

/-- Only a stop sends a wake-up, so none is pending as long as the flag is up. -/
theorem Move.undisturbed (m : Move p e a q)
    (hspawn : e = .start → p.running = false → p.undisturbed = true)
    (h : p.running = true → p.undisturbed = true) (hq : q.running = true) :
    q.undisturbed = true := by
  cases m with
  | spawn hr =>
    obtain ⟨hpermit, hloops⟩ := undisturbed_iff.mp (hspawn rfl hr)
    refine undisturbed_iff.mpr ⟨hpermit, fun j hj => ?_⟩
    rw [phase?_spawn] at hj
    split at hj
    · cases hj
    · exact hloops j hj
  | keep _ _ | wake _ _ => cases hq
  | cycle hk _ | finish hk _ => exact undisturbed_move (h hq) (lt_length hk) _ (by simp)
  | take hk hpermit =>
    rw [(undisturbed_iff.mp (h hq)).1] at hpermit
    cases hpermit
  | @wait k cause hk _ => exact undisturbed_move (h hq) (lt_length hk) .waiting (by simp)
  | @elapse k hk => exact undisturbed_move (h hq) (lt_length hk) (.testing .timer) (by simp)
  | startAgain _ | stopAgain _ | notThere _ _ => exact h hq

theorem Move.punctual (m : Move p e a q) (hlog : Logged p log)
    (h : p.running = true → p.undisturbed = true) (hp : Punctual log) :
    Punctual (log ++ (beginning e a).toList) := by
  cases m with
  | @cycle k cause hk hr =>
    refine punctual_append.mpr ⟨hp, fun hmem => ?_⟩
    cases cause with
    | timer => rfl
    | spawned => exact absurd hmem (hlog.first k hk)
    | woken => exact absurd hk ((undisturbed_iff.mp (h hr)).2 k)
  | notThere _ _ => simpa using hp
  | _ => simpa [beginning] using hp

theorem punctual_run {events : List Event}
    (hpeaceful : initial.spawnsWhere undisturbed events = true) :
    Punctual (initial.begun events) := by
  have hmove : ∀ (p : ProbeLoops) e a q log, Sound p → Move p e a q →
      (e = .start → p.running = false → p.undisturbed = true) →
      (Logged p log ∧ Punctual log ∧ (p.running = true → p.undisturbed = true)) →
      Logged q (log ++ (beginning e a).toList) ∧ Punctual (log ++ (beginning e a).toList) ∧
        (q.running = true → q.undisturbed = true) := by
    rintro p e a q log hs m hspawn ⟨hlog, hp, h⟩
    exact ⟨hlog.move hs m, m.punctual hlog h hp, m.undisturbed hspawn h⟩
  have hrun := run_keeps hmove sound_initial hpeaceful []
    ⟨logged_initial, .nil, fun hr => by cases hr⟩
  simpa using hrun.2.1

/-! ### Starts that find one -/

theorem begun_cycled (hpermit : p.permit = true) (hk : p.phase? k = some (.cycling cause))
    (rest : List Event) : p.begun (.cycled k :: rest) =
      { p.move k (.testing .woken) with permit := false }.begun rest := by
  have hstep : p.step (.cycled k) =
      (.woken, { p.move k (.testing .woken) with permit := false }) := by
    simp [step, hk, hpermit]
  rw [begun, next, hstep]
  rfl

/-- The wake-up that is kept ends the wait of whoever comes to wait next. -/
theorem begun_permit (hr : p.running = true) (hpermit : p.permit = true)
    (hk : p.phase? k = some (.testing cause)) :
    p.begun [.test k, .cycled k, .test k] = [(k, cause), (k, .woken)] := by
  have hlt := lt_length hk
  have hcycling : (p.move k (.cycling cause)).phase? k = some (.cycling cause) :=
    phase?_move_same hlt _
  have hwoken : ((p.move k (.cycling cause)).move k (.testing .woken)).phase? k =
      some (.testing .woken) := phase?_move_same (by simpa [ProbeLoops.move] using hlt) _
  have hlast := begun_test (p := { (p.move k (.cycling cause)).move k (.testing .woken) with
    permit := false }) hr hwoken []
  rw [begun_test hr hk, begun_cycled (p := p.move k (.cycling cause)) hpermit hcycling, hlast]
  rfl

/-- A start with a wake-up pending: with no other start, a cycle comes that no timer is behind. -/
theorem exists_early (hlog : Logged p log) (hr : p.running = false)
    (hdisturbed : p.undisturbed = false) :
    ∃ more, .start ∉ more ∧ ¬ Punctual (log ++ (p.next .start).begun more) := by
  have hphase : ∀ j, (p.next .start).phase? j =
      if j = p.loops.length then some (.testing .spawned) else p.phase? j := by
    intro j
    rw [next_start hr, phase?_spawn]
  have hup : (p.next .start).running = true := by rw [next_start hr]
  cases hpermit : p.permit with
  | true =>
    have hkept : (p.next .start).permit = true := by rw [next_start hr, hpermit]
    have hbegun := begun_permit hup hkept ((hphase _).trans (if_pos rfl))
    refine ⟨[.test p.loops.length, .cycled p.loops.length, .test p.loops.length], by simp, ?_⟩
    rw [hbegun, List.append_cons, punctual_append]
    simp
  | false =>
    have hwoken : ∃ k, p.phase? k = some (.testing .woken) := by
      refine Classical.not_forall_not.mp fun hnone => ?_
      rw [undisturbed_iff.mpr ⟨hpermit, hnone⟩] at hdisturbed
      cases hdisturbed
    obtain ⟨k, hk⟩ := hwoken
    have hstill : (p.next .start).phase? k = some (.testing .woken) :=
      (hphase k).trans ((if_neg (Nat.ne_of_lt (lt_length hk))).trans hk)
    refine ⟨[.test k], by simp, ?_⟩
    rw [begun_test hup hstill]
    exact fun hp => by simpa using (punctual_append.mp hp).2 (hlog.later k _ hk (by simp) (by simp))

theorem logged_run (events : List Event) : Logged (initial.run events) (initial.begun events) := by
  have hrun := run_keeps (I := Logged) (fun p e a q log hs m _ h => h.move hs m) sound_initial
    (spawnsWhere_true initial events) [] logged_initial
  simpa using hrun

/-- **No timer is overtaken exactly where no start finds a wake-up pending.** At every moment of a
run, and however it goes on without another start, each cycle of a loop but its first is begun by
that loop's timer, if and only if every start that spawned a loop found no wake-up kept and no loop
woken that had still to test the flag. -/
theorem timed_iff_undisturbed (events : List Event) :
    (∀ before after more, events = before ++ after → .start ∉ more →
        Punctual (initial.begun (before ++ more))) ↔
      initial.spawnsWhere undisturbed events = true := by
  constructor
  · refine fun htimed => Decidable.byContradiction fun hbad => ?_
    obtain ⟨before, after, rfl, hr, hdisturbed⟩ := exists_spawn hbad
    obtain ⟨more, hmore, hearly⟩ := exists_early (logged_run before) hr hdisturbed
    have hpunctual := htimed (before ++ [.start]) after more (by simp) hmore
    rw [List.append_assoc, begun_append] at hpunctual
    exact hearly hpunctual
  · rintro hpeaceful before after more rfl hmore
    rw [spawnsWhere_append, Bool.and_eq_true] at hpeaceful
    refine punctual_run ?_
    rw [spawnsWhere_append, hpeaceful.1, spawnsWhere_of_not_mem _ _ hmore]
    rfl

/-- The wake-up of a stop ends the first wait of a loop spawned after it, and the one its own loop
had been woken by does not end that loop. -/
theorem stop_begins_cycles_early :
    initial.begun [.start, .stop, .test 0, .start, .test 1, .cycled 1, .test 1] =
        [(1, .spawned), (1, .woken)] ∧
      initial.begun [.start, .test 0, .cycled 0, .stop, .start, .test 0] =
        [(0, .spawned), (0, .woken)] := by
  decide

end Sluice.ProbeLoops
