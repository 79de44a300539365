import Sluice.Proofs.FastestFirst
import Sluice.Proofs.Interchange

/-! The order in which requests complete.

A request ends by what comes of its call, or by its client going away, and gives its lease back
either way. Requests that are under way together may end in any order, and their events may take
turns; the pool ends up the same but for the order in which backends came back. That order decides
where in its array the heap keeps them, and so which of several equally fast ones goes out first. It
cannot be told from the latencies that the backends of later requests are filed under: those come in
order, and a sorted list has one order (`picks_unique`). -/
namespace Sluice

namespace Partition
variable {n : Nat} {p q : Partition n} {e : LatencyHeap.Entry (Fin n)} {b : Fin n}

/-! ### Latencies on file -/

/-- The latency that a backend waits under in the heap. -/
def filedUnder (p : Partition n) (b : Fin n) : Option Nat :=
  (p.healthy.toList.find? fun e => e.item = b).map LatencyHeap.Entry.latency

theorem find?_item {α : Type} [DecidableEq α] {entries : List (LatencyHeap.Entry α)}
    {e : LatencyHeap.Entry α} (hdistinct : (entries.map LatencyHeap.Entry.item).Nodup)
    (he : e ∈ entries) : (entries.find? fun d => d.item = e.item) = some e := by
  induction entries with
  | nil => cases he
  | cons d rest ih =>
    obtain ⟨hfirst, hrest⟩ := List.nodup_cons.mp hdistinct
    rcases List.mem_cons.mp he with rfl | he
    · exact List.find?_cons_of_pos (decide_eq_true rfl)
    · have hother : d.item ≠ e.item := fun heq => hfirst (heq ▸ List.mem_map_of_mem he)
      rw [List.find?_cons_of_neg (by simpa using hother)]
      exact ih hrest he

theorem filedUnder_of_mem (hdistinct : p.healthy.items.Nodup) (he : e ∈ p.healthy.toList) :
    p.filedUnder e.item = some e.latency := by
  rw [filedUnder, find?_item hdistinct he]
  rfl

end Partition

namespace Traffic
variable {n : Nat} {t u v : Traffic n} {p q : Partition n} {latency : Fin n → Nat}
  {xs ys taken taken' waiting waiting' : List (Fin n)}

/-! ### Picks -/

/-- What is taken is the beginning of all the backends in the order of their latencies. -/
theorem Fastest.exists_sorted (h : Fastest latency xs taken waiting) :
    ∃ rest, (taken ++ rest).Perm xs ∧
      (taken ++ rest).Pairwise fun b c => latency b ≤ latency c := by
  let rest := waiting.mergeSort fun b c => latency b ≤ latency c
  have hrest : rest.Perm waiting := List.mergeSort_perm _ _
  have hsorted : rest.Pairwise fun b c => latency b ≤ latency c := by
    refine (List.pairwise_mergeSort ?_ ?_ waiting).imp of_decide_eq_true
    · intro a b c hab hbc
      exact decide_eq_true (Nat.le_trans (of_decide_eq_true hab) (of_decide_eq_true hbc))
    · intro a b
      simpa using Nat.le_total (latency a) (latency b)
  refine ⟨rest, (hrest.append_left taken).trans h.split, List.pairwise_append.mpr ?_⟩
  exact ⟨h.sorted, hsorted, fun b hb c hc => h.first b hb c (hrest.mem_iff.mp hc)⟩

/-- Of the same backends, as many picks have the same latencies, and are the same where no two
backends are equally fast. -/
theorem picks_unique (h : Fastest latency xs taken waiting)
    (h' : Fastest latency ys taken' waiting') (hsame : xs.Perm ys)
    (hlength : taken.length = taken'.length) :
    taken.map latency = taken'.map latency ∧
      ((∀ b ∈ xs, ∀ c ∈ xs, latency b = latency c → b = c) → taken = taken') := by
  obtain ⟨rest, hall, hsorted⟩ := h.exists_sorted
  obtain ⟨rest', hall', hsorted'⟩ := h'.exists_sorted
  have hwhole : (taken ++ rest).Perm (taken' ++ rest') := (hall.trans hsame).trans hall'.symm
  constructor
  · have hlatencies : (taken ++ rest).map latency = (taken' ++ rest').map latency :=
      List.Perm.eq_of_pairwise (fun _ _ _ _ => Nat.le_antisymm) (List.pairwise_map.mpr hsorted)
        (List.pairwise_map.mpr hsorted') (hwhole.map latency)
    rw [List.map_append, List.map_append] at hlatencies
    exact (List.append_inj hlatencies (by simpa using hlength)).1
  · intro hdistinct
    have hbackends : taken ++ rest = taken' ++ rest' := by
      refine List.Perm.eq_of_pairwise (fun b c hb hc hbc hcb => ?_) hsorted hsorted' hwhole
      exact hdistinct b (hall.mem_iff.mp hb) c ((hall'.trans hsame.symm).mem_iff.mp hc)
        (Nat.le_antisymm hbc hcb)
    exact (List.append_inj hbackends hlength).1

theorem Sound.items_nodup (h : Sound t p) : p.healthy.items.Nodup :=
  (List.nodup_append.mp (List.nodup_append.mp h.nodup).1).1

/-- Pools that are filed alike hand out the same latencies, and the same backends where no two in
the heap are equally fast. -/
theorem handedOut_alike (hu : Sound u p) (hv : Sound v q) (h : p.Alike q)
    (later : List (Event n)) (hf : ∀ e ∈ later, e.files = false) :
    (u.handedOut later).map p.filedUnder = (v.handedOut later).map q.filedUnder ∧
      ((∀ d ∈ p.healthy.toList, ∀ e ∈ p.healthy.toList, d.latency = e.latency → d = e) →
        u.handedOut later = v.handedOut later) := by
  let latency (b : Fin n) : Nat := (p.filedUnder b).getD 0
  have hunder : ∀ e ∈ p.healthy.toList, p.filedUnder e.item = some e.latency := fun e =>
    Partition.filedUnder_of_mem hu.items_nodup
  have hkeys : KeyedBy latency p := by
    intro e he
    show e.latency = (p.filedUnder e.item).getD 0
    rw [hunder e he, Option.getD_some]
  have hkeys' : KeyedBy latency q := fun e he => hkeys e (h.heap.mem_iff.mpr he)
  have hitems : p.healthy.items.Perm q.healthy.items := h.heap.map _
  obtain ⟨waiting, hfirst, hcount⟩ :=
    handedOut_fastest hu.toLeastResponse hu.ordered hkeys later hf
  obtain ⟨waiting', hfirst', hcount'⟩ :=
    handedOut_fastest hv.toLeastResponse hv.ordered hkeys' later hf
  have hlength : (u.handedOut later).length = (v.handedOut later).length := by
    rw [hcount, hcount', ← LatencyHeap.length_items, ← LatencyHeap.length_items, hitems.length_eq]
  obtain ⟨hlatencies, hbackends⟩ := picks_unique hfirst hfirst' hitems hlength
  refine ⟨?_, fun hdistinct => hbackends ?_⟩
  · have hleft : (u.handedOut later).map p.filedUnder =
        ((u.handedOut later).map latency).map some := by
      rw [List.map_map]
      refine List.map_congr_left fun b hb => ?_
      obtain ⟨e, he, rfl⟩ := List.mem_map.mp (hfirst.split.mem_iff.mp (List.mem_append_left _ hb))
      rw [hunder e he, Function.comp_apply, hkeys e he]
    have hright : (v.handedOut later).map q.filedUnder =
        ((v.handedOut later).map latency).map some := by
      rw [List.map_map]
      refine List.map_congr_left fun b hb => ?_
      obtain ⟨e, he, rfl⟩ := List.mem_map.mp (hfirst'.split.mem_iff.mp (List.mem_append_left _ hb))
      rw [Partition.filedUnder_of_mem hv.items_nodup he, Function.comp_apply, hkeys' e he]
    rw [hleft, hright, hlatencies]
  · intro b hb c hc hbc
    obtain ⟨d, hd, rfl⟩ := List.mem_map.mp hb
    obtain ⟨e, he, rfl⟩ := List.mem_map.mp hc
    rw [← hkeys d hd, ← hkeys e he] at hbc
    rw [hdistinct d hd e he hbc]

/-! ### Completions -/

/-- How a lease is given back: with an outcome, or without one by a client that has gone. -/
structure Completion where
  lease : Nat
  outcome : Option Outcome
deriving DecidableEq, Repr

def Completion.events (c : Completion) : List (Event n) :=
  c.outcome.toList.map (.report c.lease) ++ [.release c.lease]

/-- These events complete these leases, each by its own in their order, and do nothing else. -/
structure Completes (plan : List Completion) (es : List (Event n)) : Prop where
  only : ∀ e ∈ es, ∃ c ∈ plan, e.lease? = some c.lease
  each : ∀ c ∈ plan, ofLease c.lease es = c.events

variable {plan order : List Completion} {c : Completion} {e : Event n} {es ds : List (Event n)}

theorem Completion.lease?_of_mem (he : e ∈ c.events) : e.lease? = some c.lease := by
  rcases List.mem_append.mp he with he | he
  · obtain ⟨o, _, rfl⟩ := List.mem_map.mp he
    rfl
  · obtain rfl := List.mem_singleton.mp he
    rfl

theorem Completion.ofLease_events (c : Completion) (k : Nat) :
    ofLease k (c.events : List (Event n)) = if c.lease = k then c.events else [] := by
  split
  · next hk =>
    refine List.filter_eq_self.mpr fun e he => ?_
    rw [lease?_of_mem he, hk]
    exact decide_eq_true rfl
  · next hk =>
    refine ofLease_eq_nil_iff.mpr fun e he => ?_
    rw [lease?_of_mem he]
    exact fun heq => hk (Option.some.inj heq)

theorem ofLease_flatMap (hplan : (plan.map Completion.lease).Nodup) (hc : c ∈ plan) :
    ofLease c.lease (plan.flatMap Completion.events : List (Event n)) = c.events := by
  induction plan with
  | nil => cases hc
  | cons d rest ih =>
    obtain ⟨hfirst, hrest⟩ := List.nodup_cons.mp hplan
    rw [List.flatMap_cons, ofLease_append, Completion.ofLease_events]
    rcases List.mem_cons.mp hc with rfl | hc
    · have hnone : ofLease c.lease (rest.flatMap Completion.events : List (Event n)) = [] := by
        refine ofLease_eq_nil_iff.mpr fun e he heq => ?_
        obtain ⟨d, hd, he⟩ := List.mem_flatMap.mp he
        rw [Completion.lease?_of_mem he] at heq
        exact hfirst (Option.some.inj heq ▸ List.mem_map_of_mem hd)
      rw [if_pos rfl, hnone, List.append_nil]
    · have hother : d.lease ≠ c.lease := fun heq => hfirst (heq ▸ List.mem_map_of_mem hc)
      rw [if_neg hother, List.nil_append, ih hrest hc]

/-- One lease after another, in whatever order. -/
theorem completes_of_perm (hplan : (plan.map Completion.lease).Nodup) (h : order.Perm plan) :
    Completes plan (order.flatMap Completion.events : List (Event n)) where
  only e he := by
    obtain ⟨c, hc, he⟩ := List.mem_flatMap.mp he
    exact ⟨c, h.mem_iff.mp hc, Completion.lease?_of_mem he⟩
  each c hc :=
    ofLease_flatMap ((h.map Completion.lease).nodup_iff.mpr hplan) (h.mem_iff.mpr hc)

theorem Completes.ofLeases (h : Completes plan es) : OfLeases es := fun e he => by
  obtain ⟨c, _, hlease⟩ := h.only e he
  exact ⟨c.lease, hlease⟩

theorem Completes.ofLease_eq (h : Completes plan es) (h' : Completes plan ds) (k : Nat) :
    ofLease k es = ofLease k ds := by
  by_cases hk : ∃ c ∈ plan, c.lease = k
  · obtain ⟨c, hc, rfl⟩ := hk
    rw [h.each c hc, h'.each c hc]
  · have hnone : ∀ {es : List (Event n)}, Completes plan es → ofLease k es = [] := by
      intro es h
      refine ofLease_eq_nil_iff.mpr fun e he heq => ?_
      obtain ⟨c, hc, hlease⟩ := h.only e he
      exact hk ⟨c, hc, Option.some.inj (hlease.symm.trans heq)⟩
    rw [hnone h, hnone h']

/-- **It does not matter who is done first.** After any events at all, let some leases be given
back, each with an outcome or without. Whether this happens one after another, in any order, or by
turns, the pool ends with the same standings, the same entries in the heap and the same backends in
the list. All that follows, until something is filed again, hands out backends that are filed under
the same latencies, and the same backends if no two are filed under one latency. -/
theorem completed_in_any_order (s : Standings n) (events : List (Event n))
    (plan : List Completion) (hplan : (plan.map Completion.lease).Nodup) :
    let t := (ofPool (.ofStandings .leastResponse s)).run events
    (∀ order : List Completion, order.Perm plan →
      Completes plan (order.flatMap fun c => (c.events : List (Event n)))) ∧
      ∀ es ds, Completes plan es → Completes plan ds →
        let u := t.run es
        let v := t.run ds
        u.pool.standings = v.pool.standings ∧ u.leases = v.leases ∧ u.sweeps = v.sweeps ∧
        ∃ p q, u.pool.selector = .leastResponse p ∧ v.pool.selector = .leastResponse q ∧
          p.healthy.toList.Perm q.healthy.toList ∧ p.unhealthy.Perm q.unhealthy ∧
          ∀ later, (∀ e ∈ later, e.files = false) →
            (u.handedOut later).map p.filedUnder = (v.handedOut later).map q.filedUnder ∧
            ((∀ d ∈ p.healthy.toList, ∀ e ∈ p.healthy.toList, d.latency = e.latency → d = e) →
              u.handedOut later = v.handedOut later) := by
  intro t
  refine ⟨fun _ => completes_of_perm hplan, ?_⟩
  intro es ds hes hds u v
  obtain ⟨_, ht⟩ := (sound_ofStandings s).run events
  obtain ⟨p, hu⟩ := ht.run es
  obtain ⟨q, hv⟩ := ht.run ds
  have halike : u.Alike v := ht.run_alike hes.ofLeases hds.ofLeases (hes.ofLease_eq hds)
  have hfiled : p.Alike q := by
    have hselector := halike.pool.selector
    rw [hu.selector, hv.selector] at hselector
    cases hselector with
    | leastResponse h => exact h
  exact ⟨halike.pool.standings, halike.leases, halike.sweeps, p, q, hu.selector, hv.selector,
    hfiled.heap, hfiled.list, handedOut_alike hu hv hfiled⟩

/-- Two backends answer and one client goes away, one after another or by turns. The arrays of the
two heaps differ, and yet they are emptied in one order. -/
theorem completed_in_any_order_by_turns :
    let took (ms : Nat) : Outcome := ⟨.healthy, ⟨ms * 1000000⟩⟩
    let t := (ofPool (.ofStandings .leastResponse (.fresh 3))).run [.select, .select, .select]
    let plan : List Completion := [⟨0, some (took 9)⟩, ⟨1, some (took 5)⟩, ⟨2, none⟩]
    let u := t.run (plan.flatMap Completion.events)
    let v := t.run [.report 1 (took 5), .release 2, .report 0 (took 9), .release 1, .release 0]
    let later := [.select, .select, .select]
    let heap (t : Traffic 3) : List (LatencyHeap.Entry (Fin 3)) := match t.pool.selector with
      | .leastResponse p => p.healthy.toList
      | .roundRobin _ => []
    heap u ≠ heap v ∧ u.handedOut later = v.handedOut later := by
  intro took t plan u v later heap
  have hplan : (plan.map Completion.lease).Nodup := by decide
  obtain ⟨horder, hends⟩ :=
    completed_in_any_order (.fresh 3) [.select, .select, .select] plan hplan
  have hturns : Completes plan ([.report 1 (took 5), .release 2, .report 0 (took 9), .release 1,
      .release 0] : List (Event 3)) := by
    refine ⟨by decide, fun c hc => ?_⟩
    simp only [plan, List.mem_cons, List.not_mem_nil, or_false] at hc
    rcases hc with rfl | rfl | rfl <;> rfl
  obtain ⟨_, _, _, p, q, hp, _, _, _, hlater⟩ := hends _ _ (horder plan (.refl _)) hturns
  obtain ⟨_, hsame⟩ := hlater later (by decide)
  have hread : heap u = p.healthy.toList := by
    show (match u.pool.selector with
      | .leastResponse p => p.healthy.toList
      | .roundRobin _ => []) = _
    rw [show u.pool.selector = _ from hp]
  refine ⟨by decide +kernel, hsame ?_⟩
  rw [← hread]
  decide +kernel

end Traffic
end Sluice
