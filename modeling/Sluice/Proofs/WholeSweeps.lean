import Sluice.Proofs.Leases
import Sluice.Proofs.Membership
import Sluice.Proofs.Overtaking

/-! A sweep that nothing interrupts.

It asks the backends of its snapshot, which are those that no request has taken out, and each of
them once: an answer takes its backend off the round, and the sweep ends when both rounds are
through. So all that is on record at the end of those backends is what they answered, in whatever
order they did, and all are filed by it. The tally counts results under round robin, and what is
filed under least response; it is the same two numbers. -/
namespace Sluice

namespace Pool
variable {n : Nat} {p : Pool n} {probe : Fin n → Outcome} {bs cs : List (Fin n)}

/-! ### Recording the answers -/

theorem recordAll_cons (b : Fin n) :
    p.recordAll probe (b :: bs) = (p.record b (probe b)).recordAll probe bs := rfl

theorem recordAll_concat (b : Fin n) :
    p.recordAll probe (bs ++ [b]) = (p.recordAll probe bs).record b (probe b) := by
  simp [recordAll]

theorem recordAll_selector : (p.recordAll probe bs).selector = p.selector := by
  induction bs generalizing p with
  | nil => rfl
  | cons b rest ih => exact ih

theorem recordAll_get_of_not_mem {c : Fin n} (h : c ∉ bs) :
    (p.recordAll probe bs).standings.get c = p.standings.get c := by
  induction bs generalizing p with
  | nil => rfl
  | cons b rest ih =>
    obtain ⟨hcb, hrest⟩ := not_or.mp (mt List.mem_cons.mpr h)
    rw [recordAll_cons, ih hrest]
    exact Standings.record_other _ hcb

/-- Whoever has answered is on record with the answer. -/
theorem recordAll_get_of_mem {c : Fin n} (h : c ∈ bs) :
    (p.recordAll probe bs).standings.get c = .ofOutcome (probe c) := by
  induction bs generalizing p with
  | nil => cases h
  | cons b rest ih =>
    rw [recordAll_cons]
    by_cases hrest : c ∈ rest
    · exact ih hrest
    · obtain rfl : c = b := (List.mem_cons.mp h).resolve_right hrest
      rw [recordAll_get_of_not_mem hrest]
      exact Standings.record_same _ _ _

/-- The order of the answers leaves no trace. -/
theorem recordAll_perm (h : bs.Perm cs) : p.recordAll probe bs = p.recordAll probe cs := by
  have hstandings : (p.recordAll probe bs).standings = (p.recordAll probe cs).standings := by
    refine Vector.ext fun i hi => ?_
    let c : Fin n := ⟨i, hi⟩
    show (p.recordAll probe bs).standings.get c = (p.recordAll probe cs).standings.get c
    by_cases hc : c ∈ bs
    · rw [recordAll_get_of_mem hc, recordAll_get_of_mem (h.mem_iff.mp hc)]
    · rw [recordAll_get_of_not_mem hc, recordAll_get_of_not_mem (mt h.mem_iff.mpr hc)]
  calc p.recordAll probe bs
      = ⟨(p.recordAll probe bs).standings, (p.recordAll probe bs).selector⟩ := rfl
    _ = ⟨(p.recordAll probe cs).standings, (p.recordAll probe cs).selector⟩ := by
        rw [hstandings, recordAll_selector, recordAll_selector]

theorem select_shared {q : Pool n} {cursor : Nat} {l : Lease n}
    (hs : p.selector = .roundRobin cursor) (h : p.select = .ok (l, q)) : ∃ b, l = .shared b := by
  simp only [select, hs] at h
  cases hscan : Rotation.select p.standings cursor with
  | error e =>
    rw [hscan] at h
    cases h
  | ok taken =>
    rw [hscan] at h
    cases h
    exact ⟨taken.1, rfl⟩

/-! ### What a sweep comes to -/

/-- The backends that a sweep asks. -/
def asked (p : Pool n) : List (Fin n) :=
  p.snapshot.1 ++ p.snapshot.2

theorem asked_roundRobin {cursor : Nat} (hs : p.selector = .roundRobin cursor) :
    p.asked = List.finRange n := by
  simp only [asked, snapshot, hs, List.append_nil]

theorem asked_leastResponse {q : Partition n} (hs : p.selector = .leastResponse q) :
    p.asked = q.members := by
  simp only [asked, snapshot, hs]
  rfl

/-- Of these backends, those that answered so. -/
def answering (probe : Fin n → Outcome) (r : Health) (bs : List (Fin n)) : List (Fin n) :=
  bs.filter fun b => (probe b).health = r

/-- The tally of these answers. -/
def tallyOf (probe : Fin n → Outcome) (bs : List (Fin n)) : Tally :=
  ⟨(answering probe .healthy bs).length, (answering probe .unhealthy bs).length⟩

theorem answering_healthy :
    answering probe .healthy bs = bs.filter fun b => (probe b).health.isHealthy := by
  refine List.filter_congr fun b _ => ?_
  cases (probe b).health <;> rfl

theorem answering_unhealthy :
    answering probe .unhealthy bs = bs.filter fun b => !(probe b).health.isHealthy := by
  refine List.filter_congr fun b _ => ?_
  cases (probe b).health <;> rfl

theorem answering_perm (h : bs.Perm cs) (r : Health) :
    (answering probe r bs).Perm (answering probe r cs) :=
  h.filter _

theorem tallyOf_perm (h : bs.Perm cs) : tallyOf probe bs = tallyOf probe cs := by
  rw [tallyOf, (answering_perm h _).length_eq, (answering_perm h _).length_eq, tallyOf]

/-- The results are counted; how they are ordered does not matter. -/
theorem finishSweep_perm {rs rs' : List Health} (h : rs.Perm rs') :
    p.finishSweep rs = p.finishSweep rs' := by
  unfold finishSweep
  split
  · simp only [h.countP_eq, h.length_eq]
  · rfl

theorem sweep_of_perm (h : bs.Perm p.asked) :
    (p.recordAll probe bs).finishSweep (bs.map fun b => (probe b).health) = p.sweep probe := by
  rw [recordAll_perm h, finishSweep_perm (h.map _)]
  rfl

theorem isHealthy_recordAll {b : Fin n} (h : b ∈ bs) :
    (p.recordAll probe bs).standings.isHealthy b = (probe b).health.isHealthy := by
  rw [Standings.isHealthy, recordAll_get_of_mem h]
  rfl

/-- Under round robin a sweep counts the results. -/
theorem sweep_roundRobin {cursor : Nat} (hs : p.selector = .roundRobin cursor) :
    p.sweep probe =
      (tallyOf probe (List.finRange n), p.recordAll probe (List.finRange n)) := by
  have hall : (List.finRange n).Perm p.asked := .of_eq (asked_roundRobin hs).symm
  have hup : ((List.finRange n).map fun b => (probe b).health).countP Health.isHealthy =
      (answering probe .healthy (List.finRange n)).length := by
    rw [List.countP_map, List.countP_eq_length_filter, answering_healthy]
    rfl
  have hdown : (List.finRange n).length = (answering probe .healthy (List.finRange n)).length +
      (answering probe .unhealthy (List.finRange n)).length := by
    rw [answering_healthy, answering_unhealthy, ← List.countP_eq_length_filter,
      ← List.countP_eq_length_filter]
    simpa using List.length_eq_countP_add_countP (l := List.finRange n)
      fun b => (probe b).health.isHealthy
  rw [← sweep_of_perm hall, finishSweep, recordAll_selector, hs]
  refine Prod.ext ?_ rfl
  show Tally.mk _ _ = Tally.mk _ _
  rw [hup, List.length_map, hdown, Nat.add_sub_cancel_left]

/-- Under least response it files everybody by what they answered. -/
theorem sweep_leastResponse {q : Partition n} (hs : p.selector = .leastResponse q) :
    ∃ q', p.sweep probe = (tallyOf probe q.members,
        ⟨(p.recordAll probe q.members).standings, .leastResponse q'⟩) ∧
      q'.healthy.items.Perm (answering probe .healthy q.members) ∧
      q'.unhealthy.Perm (answering probe .unhealthy q.members) := by
  have hall : q.members.Perm p.asked := .of_eq (asked_leastResponse hs).symm
  let after := (p.recordAll probe q.members).standings
  let q' := q.reclassify after
  have hagrees := Partition.agrees_reclassify after q
  have hmembers : q'.members.Perm q.members := Partition.reclassify_members after q
  have hfiled : ∀ b ∈ q'.members, after.isHealthy b = (probe b).health.isHealthy := fun b hb =>
    isHealthy_recordAll (hmembers.mem_iff.mp hb)
  have hup : q'.healthy.items.Perm (answering probe .healthy q.members) := by
    refine List.Perm.trans (.of_eq ?_) (answering_perm hmembers _)
    rw [answering_healthy, ← Partition.filter_members hagrees]
    exact List.filter_congr hfiled
  have hdown : q'.unhealthy.Perm (answering probe .unhealthy q.members) := by
    refine List.Perm.trans (.of_eq ?_) (answering_perm hmembers _)
    rw [answering_unhealthy, ← Partition.filter_members_not hagrees]
    exact List.filter_congr fun b hb => congrArg not (hfiled b hb)
  refine ⟨q', ?_, hup, hdown⟩
  rw [← sweep_of_perm hall, finishSweep, recordAll_selector, hs, tallyOf, ← hup.length_eq,
    ← hdown.length_eq, LatencyHeap.length_items]

/-- What a sweep comes to, whatever the strategy, in terms of whom it asks. -/
structure ComesTo (p : Pool n) (probe : Fin n → Outcome) (bs : List (Fin n))
    (result : Tally × Pool n) : Prop where
  tally : result.1 = tallyOf probe bs
  recorded : ∀ b ∈ bs, result.2.standings.get b = .ofOutcome (probe b)
  untouched : ∀ b, b ∉ bs → result.2.standings.get b = p.standings.get b
  filed : ∀ q, result.2.selector = .leastResponse q →
    q.healthy.items.Perm (answering probe .healthy bs) ∧
      q.unhealthy.Perm (answering probe .unhealthy bs)

theorem ComesTo.perm {result : Tally × Pool n} (h : ComesTo p probe bs result) (hp : bs.Perm cs) :
    ComesTo p probe cs result where
  tally := by rw [h.tally, tallyOf_perm hp]
  recorded b hb := h.recorded b (hp.mem_iff.mpr hb)
  untouched b hb := h.untouched b (mt hp.mem_iff.mp hb)
  filed q hq :=
    ⟨(h.filed q hq).1.trans (answering_perm hp _), (h.filed q hq).2.trans (answering_perm hp _)⟩

theorem sweep_comesTo (p : Pool n) (probe : Fin n → Outcome) :
    ComesTo p probe p.asked (p.sweep probe) := by
  cases hs : p.selector with
  | roundRobin cursor =>
    rw [sweep_roundRobin hs, asked_roundRobin hs]
    refine ⟨rfl, fun _ => recordAll_get_of_mem, fun _ => recordAll_get_of_not_mem, fun q hq => ?_⟩
    rw [recordAll_selector, hs] at hq
    cases hq
  | leastResponse q =>
    obtain ⟨q', hsweep, hfiled⟩ := sweep_leastResponse hs
    rw [hsweep, asked_leastResponse hs]
    refine ⟨rfl, fun _ => recordAll_get_of_mem, fun _ => recordAll_get_of_not_mem, fun r hr => ?_⟩
    cases hr
    exact hfiled

end Pool

namespace Traffic
variable {n : Nat} {t v : Traffic n} {probe : Fin n → Outcome} {k : Nat}
  {asked answered order : List (Fin n)} {b : Fin n}

/-! ### The answers of one sweep -/

/-- The answers to sweep `k`, in this order. -/
def answers (k : Nat) (probe : Fin n → Outcome) (order : List (Fin n)) : List (Event n) :=
  order.map fun b => .sweepProbe k b (probe b)

theorem run_answers_cons : v.run (answers k probe (b :: order)) =
    (v.next (.sweepProbe k b (probe b))).run (answers k probe order) := rfl

theorem history_answers_cons : v.history (answers k probe (b :: order)) =
    (v.recording (.sweepProbe k b (probe b))).toList ++
      (v.next (.sweepProbe k b (probe b))).history (answers k probe order) := rfl

/-- Since `t`, sweep `k` has set out to ask some backends, of whom these have answered. -/
structure Midway (t : Traffic n) (probe : Fin n → Outcome) (k : Nat) (asked : List (Fin n))
    (v : Traffic n) (answered : List (Fin n)) (s : Sweep n) : Prop where
  sweep : v.sweep? k = some s
  rounds : (answered ++ (s.front ++ s.back)).Perm asked
  results : s.results = answered.map fun b => (probe b).health
  pool : v.pool = t.pool.recordAll probe answered
  leases : v.leases = t.leases

theorem midway_begin (t : Traffic n) (probe : Fin n → Outcome) :
    Midway t probe t.sweeps.length t.pool.asked (t.next .sweepBegin) []
      ⟨t.pool.snapshot.1, t.pool.snapshot.2, []⟩ where
  sweep := by simp [next, step, sweep?]
  rounds := .refl _
  results := rfl
  pool := rfl
  leases := rfl

theorem note_rounds {s : Sweep n} (h : b ∈ s.pending) (r : Health) :
    (b :: ((s.note b r).front ++ (s.note b r).back)).Perm (s.front ++ s.back) := by
  unfold Sweep.pending at h
  unfold Sweep.note
  split
  · next hfront =>
    rw [if_pos hfront] at h
    simpa [List.isEmpty_iff.mp hfront] using (List.perm_cons_erase h).symm
  · next hfront =>
    rw [if_neg hfront] at h
    exact ((List.perm_cons_erase h).symm).append_right s.back

theorem note_results (s : Sweep n) (b : Fin n) (r : Health) :
    (s.note b r).results = s.results ++ [r] := by
  unfold Sweep.note
  split <;> rfl

/-- An answer that is still awaited is put on record and takes its backend off the round. -/
theorem Midway.answer {s : Sweep n} (h : Midway t probe k asked v answered s)
    (hb : b ∈ s.pending) :
    v.recording (.sweepProbe k b (probe b)) = some ⟨.sweep k, b, probe b⟩ ∧
      Midway t probe k asked (v.next (.sweepProbe k b (probe b))) (answered ++ [b])
        (s.note b (probe b).health) := by
  have hnext : v.next (.sweepProbe k b (probe b)) = { v with
      pool := v.pool.record b (probe b)
      sweeps := v.sweeps.set k (some (s.note b (probe b).health)) } := by
    simp only [next, step, h.sweep, hb, if_true]
  refine ⟨?_, ?_⟩
  · rw [recording, h.sweep]
    exact if_pos (List.contains_iff_mem.mpr hb)
  · rw [hnext]
    refine ⟨join_set_same (lt_length_of_join h.sweep) _, ?_, ?_, ?_, h.leases⟩
    · refine List.Perm.trans ?_ h.rounds
      rw [List.append_assoc]
      exact (note_rounds hb _).append_left answered
    · rw [note_results, h.results, List.map_append]
      rfl
    · rw [Pool.recordAll_concat, ← h.pool]

/-- Any other is no answer to anything. -/
theorem Midway.decline {s : Sweep n} (h : Midway t probe k asked v answered s)
    (hb : b ∉ s.pending) : v.recording (.sweepProbe k b (probe b)) = none ∧
      v.next (.sweepProbe k b (probe b)) = v := by
  refine ⟨?_, ?_⟩
  · simp [recording, h.sweep, hb]
  · simp only [next, step, h.sweep, hb, if_false]

/-- However many answers are given, in whatever order: what is put on record is the answers of some
of the backends asked, one for each. -/
theorem Midway.run {s : Sweep n} (h : Midway t probe k asked v answered s)
    (order : List (Fin n)) :
    ∃ more s', v.history (answers k probe order) = more.map (fun b => ⟨.sweep k, b, probe b⟩) ∧
      Midway t probe k asked (v.run (answers k probe order)) (answered ++ more) s' := by
  induction order generalizing v answered s with
  | nil => exact ⟨[], s, rfl, by rw [List.append_nil]; exact h⟩
  | cons b rest ih =>
    rw [run_answers_cons, history_answers_cons]
    by_cases hb : b ∈ s.pending
    · obtain ⟨hrecord, hnext⟩ := h.answer hb
      obtain ⟨more, s', hhistory, hend⟩ := ih hnext
      refine ⟨b :: more, s', ?_, ?_⟩
      · rw [hrecord, hhistory]
        rfl
      · rwa [List.append_assoc] at hend
    · obtain ⟨hrecord, hsame⟩ := h.decline hb
      rw [hrecord, hsame]
      exact ih h

/-- Those who are asked in their order all answer. -/
theorem Midway.run_asked {s : Sweep n} (h : Midway t probe k asked v answered s) :
    ∃ s', Midway t probe k asked (v.run (answers k probe (s.front ++ s.back)))
      (answered ++ (s.front ++ s.back)) s' ∧ s'.done = true := by
  generalize horder : s.front ++ s.back = order
  induction order generalizing v answered s with
  | nil =>
    refine ⟨s, by rw [List.append_nil]; exact h, ?_⟩
    simpa [Sweep.done] using horder
  | cons b rest ih =>
    have hb : b ∈ s.pending ∧
        (s.note b (probe b).health).front ++ (s.note b (probe b).health).back = rest := by
      cases hfront : s.front with
      | nil =>
        have hback : s.back = b :: rest := by simpa [hfront] using horder
        simp [Sweep.pending, Sweep.note, hfront, hback]
      | cons c front =>
        obtain ⟨rfl, hrest⟩ : c = b ∧ front ++ s.back = rest := by simpa [hfront] using horder
        simp [Sweep.pending, Sweep.note, hfront, hrest]
    obtain ⟨s', hend, hdone⟩ := ih (h.answer hb.1).2 hb.2
    rw [List.append_assoc] at hend
    exact ⟨s', hend, hdone⟩

/-- The sweep ends when all have answered, as a sweep by itself would. -/
theorem Midway.finish {s : Sweep n} (h : Midway t probe k t.pool.asked v answered s)
    (hdone : s.done = true) :
    answered.Perm t.pool.asked ∧ v.step (.sweepEnd k) = (.swept (t.pool.sweep probe).1,
      { v with pool := (t.pool.sweep probe).2, sweeps := v.sweeps.set k none }) := by
  obtain ⟨hfront, hback⟩ : s.front = [] ∧ s.back = [] := by simpa [Sweep.done] using hdone
  have hall : answered.Perm t.pool.asked := by simpa [hfront, hback] using h.rounds
  refine ⟨hall, ?_⟩
  simp only [step, h.sweep, hdone, if_true, h.pool, h.results, Pool.sweep_of_perm hall]

theorem Midway.not_finished {s : Sweep n} (h : Midway t probe k t.pool.asked v answered s)
    (hdone : s.done = false) : v.step (.sweepEnd k) = (.notPending, v) := by
  simp only [step, h.sweep, hdone]
  rfl

/-! ### Who is asked -/

/-- The backends that no request has taken out. -/
def present (t : Traffic n) : List (Fin n) :=
  (List.finRange n).filter fun b => .checkedOut b ∉ t.outstanding

theorem mem_present : b ∈ t.present ↔ .checkedOut b ∉ t.outstanding := by
  simp [present, List.mem_filter]

/-- Under least response those are the backends that are filed. -/
theorem Sound.members_present {p : Partition n} (h : Sound t p) : p.members.Perm t.present := by
  obtain ⟨hmembers, _, happart⟩ := List.nodup_append.mp h.nodup
  have hpresent : t.present.Nodup := (List.nodup_finRange n).filter _
  refine (List.perm_ext_iff_of_nodup hmembers hpresent).mpr fun b => ?_
  rw [mem_present]
  constructor
  · intro hb hout
    exact happart b hb b (List.mem_map_of_mem hout) rfl
  · intro hin
    have hb := h.whole.mem_iff.mpr (List.mem_finRange b)
    refine (List.mem_append.mp hb).resolve_right fun hout => ?_
    obtain ⟨l, hl, rfl⟩ := List.mem_map.mp hout
    obtain ⟨c, rfl⟩ := h.exclusive l hl
    exact hin hl

/-- No backend is out on a lease for itself. -/
def Shared (t : Traffic n) : Prop :=
  ∀ l ∈ t.outstanding, ∃ b, l = .shared b

theorem InTurn.next_shared {cursor : Nat} (h : InTurn t cursor) (hs : Shared t) (e : Event n) :
    Shared (t.next e) := by
  have m := next_leasing t e
  generalize t.next e = u at m
  cases m with
  | @give l pool hl =>
    intro l' hl'
    rw [outstanding, outstanding_append] at hl'
    rcases List.mem_append.mp hl' with hl' | hl'
    · exact hs l' hl'
    · obtain rfl := List.mem_singleton.mp hl'
      exact Pool.select_shared h.selector hl
  | @give_back j l hl =>
    intro l' hl'
    exact hs l' ((outstanding_set_none hl).mem_iff.mpr (List.mem_cons_of_mem _ hl'))
  | keep hsame =>
    intro l' hl'
    rw [outstanding, hsame] at hl'
    exact hs l' hl'

theorem InTurn.run_shared {cursor : Nat} (h : InTurn t cursor) (hs : Shared t)
    (events : List (Event n)) : Shared (t.run events) := by
  induction events generalizing t cursor with
  | nil => exact hs
  | cons e rest ih =>
    obtain ⟨_, _, hnext⟩ := h.step e
    exact ih hnext (h.next_shared hs e)

theorem shared_of_idle (h : t.outstanding = []) : Shared t := by
  intro l hl
  rw [h] at hl
  cases hl

theorem Shared.present (h : Shared t) : t.present = List.finRange n := by
  refine List.filter_eq_self.mpr fun b _ => ?_
  simp only [decide_eq_true_eq]
  intro hout
  obtain ⟨c, hc⟩ := h _ hout
  cases hc

/-- Whatever has happened, a sweep asks those, and under round robin these are all. -/
theorem asked_present (strategy : Strategy) (s : Standings n) (events : List (Event n)) :
    let t := (ofPool (.ofStandings strategy s)).run events
    t.pool.asked.Perm t.present ∧ (strategy = .roundRobin → t.present = List.finRange n) := by
  intro t
  cases strategy with
  | roundRobin =>
    have hstart := inTurn_ofStandings s
    obtain ⟨cursor, h⟩ := hstart.run events
    have hshared := hstart.run_shared (shared_of_idle rfl) events
    rw [Pool.asked_roundRobin h.selector, hshared.present]
    exact ⟨.refl _, fun _ => rfl⟩
  | leastResponse =>
    obtain ⟨p, h⟩ := (sound_ofStandings s).run events
    rw [Pool.asked_leastResponse h.selector]
    exact ⟨h.members_present, nofun⟩

/-- At first it asks all. -/
theorem asked_ofStandings (strategy : Strategy) (s : Standings n) :
    (Pool.ofStandings strategy s).asked.Perm (List.finRange n) := by
  have hasked := (asked_present strategy s []).1
  rwa [(shared_of_idle (t := (ofPool (.ofStandings strategy s)).run []) rfl).present] at hasked

/-! ### The whole sweep -/

/-- A sweep from its snapshot to its end, with these answers and nothing else in between. -/
def sweepAlone (t : Traffic n) (probe : Fin n → Outcome) (order : List (Fin n)) :
    Answer n × Traffic n :=
  ((t.next .sweepBegin).run (answers t.sweeps.length probe order)).step (.sweepEnd t.sweeps.length)

/-- What it puts on record. -/
def askedAlone (t : Traffic n) (probe : Fin n → Outcome) (order : List (Fin n)) :
    List (Recording n) :=
  (t.next .sweepBegin).history (answers t.sweeps.length probe order)

theorem sweepAlone_swept {tally : Tally} {u : Traffic n}
    (h : t.sweepAlone probe order = (.swept tally, u)) :
    (t.askedAlone probe order).Perm
        (t.pool.asked.map fun b => ⟨.sweep t.sweeps.length, b, probe b⟩) ∧
      (tally, u.pool) = t.pool.sweep probe ∧ u.leases = t.leases := by
  obtain ⟨more, s', hhistory, hend⟩ := (midway_begin t probe).run order
  rw [List.nil_append] at hend
  cases hdone : s'.done with
  | false =>
    rw [sweepAlone, hend.not_finished hdone] at h
    cases h
  | true =>
    obtain ⟨hall, hfinish⟩ := hend.finish hdone
    rw [sweepAlone, hfinish] at h
    cases h
    exact ⟨by rw [askedAlone, hhistory]; exact hall.map _, rfl, hend.leases⟩

theorem exists_sweepAlone (t : Traffic n) (probe : Fin n → Outcome) :
    ∃ order u, t.sweepAlone probe order = (.swept (t.pool.sweep probe).1, u) := by
  obtain ⟨s', hend, hdone⟩ := (midway_begin t probe).run_asked
  exact ⟨_, _, (hend.finish hdone).2⟩

/-- **One sweep, both strategies.** From whatever state, a sweep that nothing interrupts asks every
backend that is not checked out once, and under round robin that is every backend; it can always
come to its end. In whatever order the answers come, they and nothing else are on record at the end,
the heap holds those who answered healthy and the list the others, and the tally is their numbers.
Where no lease is out, sweeps with the same answers leave the same standings and come to the same
tally, whatever the strategies and whatever has gone before. -/
theorem sweep_alone (strategy : Strategy) (s : Standings n) (events : List (Event n))
    (probe : Fin n → Outcome) :
    let t := (ofPool (.ofStandings strategy s)).run events
    (strategy = .roundRobin → t.present = List.finRange n) ∧
      (∃ order u, t.sweepAlone probe order = (.swept (Pool.tallyOf probe t.present), u)) ∧
      (∀ order tally u, t.sweepAlone probe order = (.swept tally, u) →
        (t.askedAlone probe order).Perm
          (t.present.map fun b => ⟨.sweep t.sweeps.length, b, probe b⟩) ∧
        Pool.ComesTo t.pool probe t.present (tally, u.pool) ∧
        (tally, u.pool) = t.pool.sweep probe ∧ u.leases = t.leases) ∧
      (t.outstanding = [] → ∀ strategy' s' events',
        let t' := (ofPool (.ofStandings strategy' s')).run events'
        t'.outstanding = [] → ∀ order tally u order' tally' u',
          t.sweepAlone probe order = (.swept tally, u) →
          t'.sweepAlone probe order' = (.swept tally', u') →
          tally = tally' ∧ u.pool.standings = u'.pool.standings) := by
  intro t
  obtain ⟨hasked, hall⟩ := asked_present strategy s events
  have hcomes := (Pool.sweep_comesTo t.pool probe).perm hasked
  refine ⟨hall, ?_, ?_, ?_⟩
  · rw [← hcomes.tally]
    exact exists_sweepAlone t probe
  · intro order tally u h
    obtain ⟨hhistory, hsweep, hleases⟩ := sweepAlone_swept h
    exact ⟨hhistory.trans (hasked.map _), by rw [hsweep]; exact hcomes, hsweep, hleases⟩
  · intro hidle strategy' s' events' t' hidle' order tally u order' tally' u' h h'
    have hcomes' := (Pool.sweep_comesTo t'.pool probe).perm (asked_present strategy' s' events').1
    rw [← (sweepAlone_swept h).2.1, (shared_of_idle hidle).present] at hcomes
    rw [← (sweepAlone_swept h').2.1, (shared_of_idle hidle').present] at hcomes'
    refine ⟨hcomes.tally.trans hcomes'.tally.symm, Vector.ext fun i hi => ?_⟩
    have hb := hcomes.recorded ⟨i, hi⟩ (List.mem_finRange _)
    have hb' := hcomes'.recorded ⟨i, hi⟩ (List.mem_finRange _)
    exact hb.trans hb'.symm

/-- Backend 0 is out on a lease and is not asked. With no lease out, the strategies agree. -/
theorem sweep_alone_around_lease :
    let probe : Fin 3 → Outcome := fun b => ⟨if b = 2 then .unhealthy else .healthy, ⟨2000⟩⟩
    let start (strategy : Strategy) : Traffic 3 := ofPool (.ofStandings strategy (.fresh 3))
    let t := (start .leastResponse).run [.select]
    (t.askedAlone probe [2, 1]).Perm (t.present.map fun b => ⟨.sweep t.sweeps.length, b, probe b⟩) ∧
      Pool.ComesTo t.pool probe t.present
        (⟨1, 1⟩, (t.sweepAlone probe [2, 1]).2.pool) ∧
      ((start .roundRobin).sweepAlone probe [0, 1, 2]).2.pool.standings =
        ((start .leastResponse).sweepAlone probe [2, 0, 1]).2.pool.standings := by
  intro probe start t
  obtain ⟨_, _, hswept, _⟩ := sweep_alone .leastResponse (.fresh 3) [.select] probe
  obtain ⟨_, _, _, hagree⟩ := sweep_alone .roundRobin (.fresh 3) [] probe
  have htally : (t.sweepAlone probe [2, 1]).1 = .swept ⟨1, 1⟩ := by decide +kernel
  have hturn : ((start .roundRobin).sweepAlone probe [0, 1, 2]).1 = .swept ⟨2, 1⟩ := by
    decide +kernel
  have hleast : ((start .leastResponse).sweepAlone probe [2, 0, 1]).1 = .swept ⟨2, 1⟩ := by
    decide +kernel
  obtain ⟨hhistory, hcomes, _⟩ := hswept [2, 1] _ _ (Prod.ext htally rfl)
  have hsame := hagree rfl .leastResponse (.fresh 3) [] rfl [0, 1, 2] _ _ [2, 0, 1] _ _
    (Prod.ext hturn rfl) (Prod.ext hleast rfl)
  exact ⟨hhistory, hcomes, hsame.2⟩

end Traffic
end Sluice
