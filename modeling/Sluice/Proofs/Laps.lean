import Mathlib.Data.List.Rotate
import Sluice.Proofs.Overtaking

/-! Fairness of selection in turn while health stays as it is.

From the cursor on, around to it again, the healthy backends stand in the order in which their turns
come. A selection takes the first of them, and since the cursor moves just past it, it is the last
one from then on (`upcoming_after`): the list is rotated by one. So whole laps are dealt out, one
turn for each healthy backend in each of them, for as long as no outcome that is recorded changes
the health of any. -/
namespace Sluice

namespace Rotation
variable {n : Nat} {s : Standings n} {cursor : Nat} {b : Fin n} {rest : List (Fin n)}

/-- The healthy backends, the first one at the cursor or after it in front. -/
def upcoming (s : Standings n) (cursor : Nat) : List (Fin n) :=
  ((List.finRange n).rotate cursor).filter s.isHealthy

theorem lap_eq_rotate (cursor : Nat) (h : 0 < n) :
    lap cursor h = (List.finRange n).rotate cursor := by
  refine List.ext_getElem (by simp [lap]) fun i _ _ => Fin.ext ?_
  simp [lap, List.getElem_rotate, Nat.add_comm]

theorem scan_eq_head? (s : Standings n) (cursor : Nat) :
    scan s cursor = (upcoming s cursor).head? := by
  unfold scan upcoming
  split
  · next hn => rw [lap_eq_rotate, List.head?_filter]
  · next hn =>
    obtain rfl : n = 0 := by omega
    simp

theorem length_upcoming (s : Standings n) (cursor : Nat) :
    (upcoming s cursor).length = (List.finRange n).countP s.isHealthy := by
  rw [upcoming, ← List.countP_eq_length_filter]
  exact (List.rotate_perm _ _).countP_eq _

/-- Each healthy backend comes once in a lap, and no other comes at all. -/
theorem count_upcoming (s : Standings n) (cursor : Nat) (b : Fin n) :
    (upcoming s cursor).count b = if s.isHealthy b then 1 else 0 := by
  have honce : ((List.finRange n).rotate cursor).count b = 1 := by
    rw [(List.rotate_perm _ _).count_eq]
    exact List.count_eq_one_of_mem (List.nodup_finRange n) (List.mem_finRange b)
  unfold upcoming
  cases hb : s.isHealthy b with
  | true => rw [List.count_filter hb, honce, if_pos rfl]
  | false =>
    rw [if_neg (by decide)]
    refine List.count_eq_zero_of_not_mem fun hmem => ?_
    rw [(List.mem_filter.mp hmem).2] at hb
    cases hb

/-- Whoever has had a turn is the last to have the next. -/
theorem upcoming_after (h : upcoming s cursor = b :: rest) :
    upcoming s (after b) = rest ++ [b] := by
  obtain ⟨front, back, hlap, hfront, hb, rfl⟩ := List.filter_eq_cons_iff.mp h
  -- The cursor and the backends skipped make up the position of `b`.
  have hposition : b.val = (cursor + front.length) % n := by
    have hget : ((List.finRange n).rotate cursor)[front.length]? = some b := by
      rw [hlap]
      simp
    obtain ⟨hlt, hget⟩ := List.getElem?_eq_some_iff.mp hget
    rw [List.getElem_rotate] at hget
    rw [← hget]
    simp [Nat.add_comm]
  have hpast : (List.finRange n).rotate (after b) = back ++ (front ++ [b]) := by
    calc (List.finRange n).rotate (after b)
      _ = (List.finRange n).rotate ((cursor + (front.length + 1)) % (List.finRange n).length) := by
          rw [after, hposition, Nat.mod_add_mod, Nat.add_assoc, List.length_finRange]
      _ = (front ++ b :: back).rotate (front.length + 1) := by
          rw [List.rotate_mod, ← List.rotate_rotate, hlap]
      _ = back ++ (front ++ [b]) := by
          rw [List.append_cons front b back]
          simpa using List.rotate_append_length_eq (front ++ [b]) back
  have hskipped : front.filter s.isHealthy = [] := List.filter_eq_nil_iff.mpr hfront
  simp [upcoming, hpast, hskipped, hb]

theorem length_laps (k : Nat) (lap : List (Fin n)) :
    (List.replicate k lap).flatten.length = k * lap.length := by
  rw [List.length_flatten, List.map_replicate, List.sum_replicate_nat]

/-- Laps that begin one backend later are the same turns without the first one. -/
theorem laps_shift (k : Nat) (b : Fin n) (rest : List (Fin n)) :
    b :: (List.replicate k (rest ++ [b])).flatten =
      (List.replicate k (b :: rest)).flatten ++ [b] := by
  induction k with
  | zero => rfl
  | succ k ih =>
    rw [List.replicate_succ, List.replicate_succ, List.flatten_cons, List.flatten_cons,
      List.append_assoc, List.singleton_append, ih]
    simp

end Rotation

namespace Traffic
open Rotation
variable {n : Nat} {t : Traffic n} {cursor : Nat}

/-- Whether every backend is as healthy after each event as it was before. -/
def healthKept (t : Traffic n) : List (Event n) → Bool
  | [] => true
  | e :: rest =>
    decide (∀ b, (t.next e).pool.standings.isHealthy b = t.pool.standings.isHealthy b) &&
      healthKept (t.next e) rest

/-- As many selections as there are turns in `k` laps get them in order. -/
theorem InTurn.dealt (h : InTurn t cursor) {events : List (Event n)}
    (hkept : t.healthKept events = true) {k : Nat}
    (hk : events.countP Event.selects ≤ k * (upcoming t.pool.standings cursor).length) :
    t.handedOut events = ((List.replicate k (upcoming t.pool.standings cursor)).flatten).take
      (events.countP Event.selects) := by
  induction events generalizing t cursor with
  | nil => rfl
  | cons e rest ih =>
    obtain ⟨cursor', turn, hnext⟩ := h.step e
    rw [healthKept, Bool.and_eq_true, decide_eq_true_eq] at hkept
    obtain ⟨hsame, hlater⟩ := hkept
    have hup (c : Nat) : upcoming (t.next e).pool.standings c = upcoming t.pool.standings c := by
      rw [upcoming, upcoming, funext hsame]
    specialize ih hnext hlater
    rw [hup] at ih
    rw [handedOut]
    generalize (t.step e).1 = answer at turn ⊢
    cases turn with
    | @take b hb =>
      rw [scan_eq_head?, List.head?_eq_some_iff] at hb
      obtain ⟨others, hlap⟩ := hb
      have hselects : (Event.select :: rest).countP Event.selects =
          rest.countP Event.selects + 1 := List.countP_cons_of_pos rfl
      rw [hselects] at hk ⊢
      have hlength : (upcoming t.pool.standings (after b)).length =
          (upcoming t.pool.standings cursor).length := by
        rw [length_upcoming, length_upcoming]
      rw [ih (by rw [hlength]; omega), upcoming_after hlap]
      show b :: ((List.replicate k (others ++ [b])).flatten).take _ = _
      rw [← List.take_succ_cons, laps_shift, ← hlap, List.take_append_of_le_length]
      rw [length_laps]
      exact hk
    | turnAway hnone =>
      rw [scan_eq_head?, List.head?_eq_none_iff] at hnone
      rw [hnone, List.length_nil, Nat.mul_zero, List.countP_cons_of_pos rfl] at hk
      omega
    | pass he ha =>
      have hselects : (e :: rest).countP Event.selects = rest.countP Event.selects :=
        List.countP_cons_of_neg (by simp [he])
      rw [hselects] at hk ⊢
      rw [ha]
      exact ih hk

/-- **Turns are dealt out evenly while health stays.** After any events at all the cursor is a
position. Whatever comes then, as long as it leaves the health of every backend as it is: among as
many selections as make `k` turns for each healthy backend, the healthy backends are taken in the
order of the configuration, from the cursor on and around, `k` laps long. So each of them is taken
`k` times, and no other one ever. -/
theorem turns_dealt_evenly (s : Standings n) (events : List (Event n)) :
    let t := (ofPool (.ofStandings .roundRobin s)).run events
    ∃ cursor, t.pool.selector = .roundRobin cursor ∧ (0 < n → cursor < n) ∧
      ∀ later k, t.healthKept later = true →
        later.countP Event.selects = k * (List.finRange n).countP t.pool.standings.isHealthy →
        t.handedOut later = (List.replicate k
          (((List.finRange n).rotate cursor).filter t.pool.standings.isHealthy)).flatten ∧
        ∀ b, (t.handedOut later).count b = if t.pool.standings.isHealthy b then k else 0 := by
  intro t
  obtain ⟨cursor, h⟩ := (inTurn_ofStandings s).run events
  refine ⟨cursor, h.selector, ?_, ?_⟩
  · have := h.position
    omega
  intro later k hkept hcount
  rw [← length_upcoming _ cursor] at hcount
  have hdealt : t.handedOut later =
      (List.replicate k (upcoming t.pool.standings cursor)).flatten := by
    rw [h.dealt hkept (Nat.le_of_eq hcount), hcount, ← length_laps, List.take_length]
  refine ⟨hdealt, fun b => ?_⟩
  rw [hdealt, List.count_flatten, List.map_replicate, List.sum_replicate_nat, count_upcoming]
  split <;> simp

/-- The cursor rests on a backend that is down, and requests come to an end in between. -/
theorem turns_dealt_evenly_past_gap :
    let t : Traffic 3 := (ofPool (.ofStandings .roundRobin (.fresh 3))).run
      [.select, .record 1 ⟨.unhealthy, ⟨5000⟩⟩]
    let later : List (Event 3) :=
      [.select, .report 0 ⟨.healthy, ⟨9000⟩⟩, .select, .release 1, .select, .sweepBegin, .select]
    t.healthKept later = true ∧ t.pool.selector = .roundRobin 1 ∧
      t.handedOut later = [2, 0, 2, 0] ∧ (t.handedOut later).count 1 = 0 := by
  intro t later
  obtain ⟨cursor, hselector, _, hdealt⟩ :=
    turns_dealt_evenly (.fresh 3) [.select, .record 1 ⟨.unhealthy, ⟨5000⟩⟩]
  obtain rfl : 1 = cursor := Selector.roundRobin.inj hselector
  have hkept : t.healthKept later = true := by decide +kernel
  obtain ⟨horder, hcount⟩ := hdealt later 2 hkept (by decide +kernel)
  refine ⟨hkept, rfl, horder.trans (by decide +kernel), (hcount 1).trans (by decide +kernel)⟩

end Traffic
end Sluice
