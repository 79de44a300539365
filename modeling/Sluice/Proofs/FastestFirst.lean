import Sluice.Proofs.Staleness

/-! The order in which a least-response pool hands its backends out.

A checkout takes the root of the heap, which by the order of the heap has the least latency among
the entries. That latency is the one its backend was filed under; where the filing agrees with the
standings it is the latency on record, and the entries are the healthy backends that are filed.
Until something is filed again the heap only loses its root, so the checkouts of such a stretch come
in the order of the latencies that were on record at its start. -/
namespace Sluice.Traffic
variable {n : Nat} {t u : Traffic n} {p q : Partition n} {e : Event n} {a : Answer n}
  {latency : Fin n → Nat} {b : Fin n}

/-! ### Runs that file nothing -/

/-- The event may bring a backend into the heap. -/
def Event.files : Event n → Bool
  | .release _ | .reclassify | .sweepEnd _ => true
  | _ => false

/-- Without filing, a move takes the root of the heap out for whoever asked, or changes nothing in
the partition, and then turns away only those who ask an empty heap. -/
theorem Move.hands_out (m : Move t p e a u q) (hf : e.files = false) :
    (∃ b, p.checkOut = .ok (b, q) ∧ a.backend? = some b ∧ e.selects = true) ∨
      (q = p ∧ a.backend? = none ∧ (e.selects = true → p.healthy.size = 0)) := by
  cases m with
  | @checkOut b q hq => exact .inl ⟨b, hq, rfl, rfl⟩
  | turnAway he => exact .inr ⟨rfl, rfl, fun _ => Partition.checkOut_eq_error he⟩
  | report _ | record | sweepBegin | sweepProbe _ _ =>
    exact .inr ⟨rfl, rfl, fun hs => by cases hs⟩
  | release _ | reclassify | sweepEnd _ _ => cases hf
  | decline hs _ ha =>
    refine .inr ⟨rfl, ?_, fun hselects => ?_⟩
    · rcases ha with rfl | rfl | rfl <;> rfl
    · rw [hs] at hselects
      cases hselects

/-! ### Keys -/

/-- The entries of the heap are filed under these latencies. -/
def KeyedBy (latency : Fin n → Nat) (p : Partition n) : Prop :=
  ∀ e ∈ p.healthy.toList, e.latency = latency e.item

theorem KeyedBy.checkOut (h : KeyedBy latency p) (hq : p.checkOut = .ok (b, q)) :
    KeyedBy latency q := by
  obtain ⟨e, rest, hpop, rfl, rfl⟩ := Partition.checkOut_eq_ok hq
  intro d hd
  exact h d ((LatencyHeap.pop?_perm hpop).mem_iff.mpr (List.mem_cons_of_mem e hd))

/-- A checkout takes out a fastest backend of the heap. -/
theorem KeyedBy.checkOut_least (h : KeyedBy latency p) (ho : p.healthy.Ordered)
    (hq : p.checkOut = .ok (b, q)) : ∀ c ∈ p.healthy.items, latency b ≤ latency c := by
  obtain ⟨e, rest, hpop, rfl, rfl⟩ := Partition.checkOut_eq_ok hq
  intro c hc
  obtain ⟨d, hd, rfl⟩ := List.mem_map.mp hc
  have he : e ∈ p.healthy.toList := (LatencyHeap.pop?_perm hpop).mem_iff.mpr List.mem_cons_self
  rw [← h e he, ← h d hd]
  exact LatencyHeap.pop?_least ho hpop d hd

/-- As long as there are any in the heap, a request gets one of the fastest. -/
theorem select_fastest (h : LeastResponse t p) (ho : p.healthy.Ordered) (hk : KeyedBy latency p)
    (hsize : p.healthy.size ≠ 0) :
    ∃ b u, t.step .select = (.leased t.leases.length (.checkedOut b), u) ∧
      b ∈ p.healthy.items ∧ ∀ c ∈ p.healthy.items, latency b ≤ latency c := by
  obtain ⟨e, rest, hpop⟩ := LatencyHeap.exists_pop? hsize
  have hout := Partition.checkOut_of_pop? hpop
  refine ⟨e.item, _, select_ok h hout, ?_, hk.checkOut_least ho hout⟩
  exact (Partition.checkOut_items hout).mem_iff.mpr List.mem_cons_self

/-! ### Checkouts in a row -/

/-- Of these backends some are taken, the fastest of them and in the order of their latencies, and
the others wait. -/
structure Fastest (latency : Fin n → Nat) (backends taken waiting : List (Fin n)) : Prop where
  split : (taken ++ waiting).Perm backends
  sorted : taken.Pairwise fun b c => latency b ≤ latency c
  first : ∀ b ∈ taken, ∀ c ∈ waiting, latency b ≤ latency c

theorem fastest_nil (latency : Fin n → Nat) (backends : List (Fin n)) :
    Fastest latency backends [] backends :=
  ⟨.refl _, .nil, fun _ h => absurd h List.not_mem_nil⟩

theorem Fastest.cons {backends rest taken waiting : List (Fin n)}
    (h : Fastest latency rest taken waiting) (hb : backends.Perm (b :: rest))
    (hleast : ∀ c ∈ backends, latency b ≤ latency c) :
    Fastest latency backends (b :: taken) waiting := by
  have hsplit : (b :: taken ++ waiting).Perm backends := (h.split.cons b).trans hb.symm
  have hmem : ∀ c ∈ taken ++ waiting, latency b ≤ latency c := by
    intro c hc
    exact hleast c (hsplit.mem_iff.mp (List.mem_cons_of_mem b hc))
  refine ⟨hsplit, List.pairwise_cons.mpr ⟨?_, h.sorted⟩, ?_⟩
  · intro c hc
    exact hmem c (List.mem_append_left _ hc)
  · intro c hc d hd
    rcases List.mem_cons.mp hc with rfl | hc
    · exact hmem d (List.mem_append_right _ hd)
    · exact h.first c hc d hd

/-- As long as nothing is filed, the heap gives its backends out in the order of their keys, one for
every event that asks while there are any. -/
theorem handedOut_fastest (h : LeastResponse t p) (ho : p.healthy.Ordered)
    (hk : KeyedBy latency p) (events : List (Event n)) (hf : ∀ e ∈ events, e.files = false) :
    ∃ waiting, Fastest latency p.healthy.items (t.handedOut events) waiting ∧
      (t.handedOut events).length = min (events.countP Event.selects) p.healthy.size := by
  induction events generalizing t p with
  | nil => exact ⟨_, fastest_nil latency _, by simp [handedOut]⟩
  | cons e rest ih =>
    have hrest : ∀ e ∈ rest, e.files = false := fun e he => hf e (List.mem_cons_of_mem _ he)
    obtain ⟨q, m, hq⟩ := step_move h e
    rw [handedOut, List.countP_cons]
    rcases m.hands_out (hf e List.mem_cons_self) with ⟨b, hout, hb, hs⟩ | ⟨rfl, hnone, hs⟩
    · have hsize := Partition.checkOut_size hout
      obtain ⟨waiting, hfastest, hlength⟩ :=
        ih hq (Partition.checkOut_ordered ho hout) (hk.checkOut hout) hrest
      have hleast := hk.checkOut_least ho hout
      rw [hb, if_pos hs]
      refine ⟨waiting, hfastest.cons (Partition.checkOut_items hout) hleast, ?_⟩
      simp only [Option.toList, List.singleton_append, List.length_cons, hlength]
      omega
    · obtain ⟨waiting, hfastest, hlength⟩ := ih hq ho hk hrest
      rw [hnone]
      refine ⟨waiting, hfastest, ?_⟩
      simp only [Option.toList, List.nil_append, hlength]
      split
      · have hempty := hs ‹_›
        omega
      · rfl

/-- **The fastest go first.** With no sweep under way a checkout hands out a healthy backend, and of
the healthy ones that are filed a fastest by the latencies on record, which are in whole
microseconds of 64 bits. As long as no lease comes back and nothing is filed again, all that follows
hands out the fastest of them, one for each request, in the order of those latencies. -/
theorem checkouts_fastest_first (s : Standings n) (events : List (Event n))
    (ha : ∀ e ∈ events, e.attributed = true)
    (hidle : ((ofPool (.ofStandings .leastResponse s)).run events).underWay = []) :
    let t₀ := ofPool (.ofStandings .leastResponse s)
    let t := t₀.run events
    let latency := t.pool.standings.latency
    (∀ b, latency b = match lastOn b (t₀.history events) with
      | some r => min (r.outcome.latency.nanos / 1000) (Nat.pow 2 64 - 1)
      | none => s.latency b) ∧
    ∃ p, t.pool.selector = .leastResponse p ∧
      (p.healthy.size ≠ 0 → ∃ b u, t.step .select = (.leased t.leases.length (.checkedOut b), u) ∧
        b ∈ p.members ∧ t.pool.standings.isHealthy b = true ∧
        ∀ c ∈ p.members, t.pool.standings.isHealthy c = true → latency b ≤ latency c) ∧
      ∀ later, (∀ e ∈ later, e.files = false) → ∃ waiting,
        Fastest latency (p.members.filter t.pool.standings.isHealthy) (t.handedOut later) waiting ∧
        (t.handedOut later).length = min (later.countP Event.selects) p.healthy.size := by
  intro t₀ t latency
  obtain ⟨p, hp⟩ := current_run s ha
  have hagrees := hp.agrees_of_idle hidle
  have hitems := Partition.filter_members hagrees
  have hkeys : KeyedBy latency p := fun e he => ((hagrees e.item).up e he rfl).2
  refine ⟨?_, p, hp.selector, ?_, ?_⟩
  · intro b
    have hstanding : t.pool.standings.get b = standingAfter s (t₀.history events) b :=
      standings_run t₀ events b
    show (t.pool.standings.get b).latency = _
    rw [hstanding, standingAfter]
    cases lastOn b (t₀.history events) <;> rfl
  · intro hsize
    obtain ⟨b, u, hselect, hmem, hleast⟩ :=
      select_fastest hp.toLeastResponse hp.ordered hkeys hsize
    rw [← hitems] at hmem hleast
    obtain ⟨hfiled, hhealthy⟩ := List.mem_filter.mp hmem
    refine ⟨b, u, hselect, hfiled, hhealthy, ?_⟩
    intro c hc hup
    exact hleast c (List.mem_filter.mpr ⟨hc, hup⟩)
  · intro later hlater
    rw [hitems]
    exact handedOut_fastest hp.toLeastResponse hp.ordered hkeys later hlater

/-- Probed in 50, 10 and 30 milliseconds. -/
theorem checkouts_fastest_first_of_three :
    let ms := fun k : Nat => (⟨.healthy, ⟨k * 1000000⟩⟩ : Outcome)
    let events : List (Event 3) := [.sweepBegin, .sweepProbe 0 0 (ms 50), .sweepProbe 0 1 (ms 10),
      .sweepProbe 0 2 (ms 30), .sweepEnd 0]
    let t := (ofPool (.ofStandings .leastResponse (.fresh 3))).run events
    let later := [.select, .select, .select]
    t.handedOut later = [1, 2, 0] ∧ ∃ p waiting, t.pool.selector = .leastResponse p ∧
      Fastest t.pool.standings.latency
        (p.members.filter t.pool.standings.isHealthy) (t.handedOut later) waiting := by
  intro ms events t later
  have hidle : t.underWay = [] := by decide +kernel
  obtain ⟨_, p, hp, _, hlater⟩ := checkouts_fastest_first (.fresh 3) events (by decide) hidle
  obtain ⟨waiting, hfastest, _⟩ := hlater later (by decide)
  exact ⟨by decide +kernel, p, waiting, hp, hfastest⟩

end Sluice.Traffic
