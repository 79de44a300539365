import Sluice.Proofs.Leases
import Sluice.Proofs.Membership

/-! Events of different leases, one after the other or the other way round.

A lease reports on its backend, and its release files that backend by the standing it has then.
Different leases of a least-response pool are out for different backends, so what one of them does
is nothing to the other: only the order in which backends enter the heap and the list is the order
of the events. States that differ in this alone are `Alike`. Two neighbouring events of different
leases can be interchanged up to that (`Sound.interchange`), and therefore two runs in which every
lease does the same things in the same order end alike, however the leases take turns
(`Sound.run_alike`). -/
namespace Sluice

namespace Standings
variable {n : Nat}

theorem record_comm (s : Standings n) {b c : Fin n} (h : b ≠ c) (o o' : Outcome) :
    (s.record b o).record c o' = (s.record c o').record b o :=
  Vector.set_comm _ _ fun heq => h (Fin.ext heq)

end Standings

/-! ### Alike but for the order -/

/-- The same backends filed in the same way. -/
structure Partition.Alike {n : Nat} (p q : Partition n) : Prop where
  heap : p.healthy.toList.Perm q.healthy.toList
  list : p.unhealthy.Perm q.unhealthy

inductive Selector.Alike {n : Nat} : Selector n → Selector n → Prop where
  | roundRobin {cursor} : Alike (.roundRobin cursor) (.roundRobin cursor)
  | leastResponse {p q} : p.Alike q → Alike (.leastResponse p) (.leastResponse q)

structure Pool.Alike {n : Nat} (p q : Pool n) : Prop where
  standings : p.standings = q.standings
  selector : p.selector.Alike q.selector

structure Traffic.Alike {n : Nat} (t u : Traffic n) : Prop where
  pool : t.pool.Alike u.pool
  leases : t.leases = u.leases
  sweeps : t.sweeps = u.sweeps

namespace Partition
variable {n : Nat} {p q r : Partition n} {s s' : Standings n} {b c : Fin n}

theorem Alike.refl (p : Partition n) : p.Alike p :=
  ⟨.refl _, .refl _⟩

theorem Alike.trans (h : p.Alike q) (h' : q.Alike r) : p.Alike r :=
  ⟨h.heap.trans h'.heap, h.list.trans h'.list⟩

theorem Alike.file (h : p.Alike q) (s : Standings n) (b : Fin n) :
    (p.file s b).Alike (q.file s b) := by
  cases hb : s.isHealthy b with
  | true =>
    rw [file_healthy hb, file_healthy hb]
    refine ⟨?_, h.list⟩
    exact (LatencyHeap.push_perm _ _).trans
      ((h.heap.cons _).trans (LatencyHeap.push_perm _ _).symm)
  | false =>
    rw [file_unhealthy hb, file_unhealthy hb]
    exact ⟨h.heap, h.list.append_right [b]⟩

theorem file_comm (p : Partition n) (s : Standings n) (b c : Fin n) :
    ((p.file s b).file s c).Alike ((p.file s c).file s b) := by
  have hpushes : ∀ d e, ((p.healthy.push d).push e).toList.Perm (e :: d :: p.healthy.toList) :=
    fun d e => (LatencyHeap.push_perm _ e).trans ((LatencyHeap.push_perm _ d).cons e)
  cases hb : s.isHealthy b with
  | true =>
    cases hc : s.isHealthy c with
    | true =>
      simp only [file_healthy hb, file_healthy hc]
      exact ⟨(hpushes _ _).trans ((List.Perm.swap _ _ _).trans (hpushes _ _).symm), .refl _⟩
    | false =>
      simp only [file_healthy hb, file_unhealthy hc]
      exact .refl _
  | false =>
    cases hc : s.isHealthy c with
    | true =>
      simp only [file_unhealthy hb, file_healthy hc]
      exact .refl _
    | false =>
      simp only [file_unhealthy hb, file_unhealthy hc, List.append_assoc]
      exact ⟨.refl _, (List.Perm.swap c b []).append_left _⟩

/-- Filing looks at the standing of the backend filed and at no other. -/
theorem file_congr (h : s.get b = s'.get b) : p.file s b = p.file s' b := by
  have hup : s.isHealthy b = s'.isHealthy b := congrArg (fun x => x.health.isHealthy) h
  have hlatency : s.latency b = s'.latency b := congrArg Standing.latency h
  rw [file, file, hup, hlatency]

end Partition

theorem Selector.Alike.refl {n : Nat} (s : Selector n) : s.Alike s := by
  cases s with
  | roundRobin cursor => exact .roundRobin
  | leastResponse p => exact .leastResponse (.refl p)

namespace Pool
variable {n : Nat} {p q r : Pool n} {l m : Lease n} {b c : Fin n}

theorem Alike.refl (p : Pool n) : p.Alike p :=
  ⟨rfl, .refl _⟩

theorem Alike.trans (h : p.Alike q) (h' : q.Alike r) : p.Alike r := by
  refine ⟨h.standings.trans h'.standings, ?_⟩
  have hpq := h.selector
  have hqr := h'.selector
  generalize p.selector = x at hpq ⊢
  generalize q.selector = y at hpq hqr
  generalize r.selector = z at hqr ⊢
  cases hpq with
  | roundRobin => exact hqr
  | leastResponse hpq =>
    cases hqr with
    | leastResponse hqr => exact .leastResponse (hpq.trans hqr)

theorem Alike.record (h : p.Alike q) (b : Fin n) (o : Outcome) :
    (p.record b o).Alike (q.record b o) :=
  ⟨congrArg (Standings.record · b o) h.standings, h.selector⟩

theorem Alike.release (h : p.Alike q) (l : Lease n) : (p.release l).Alike (q.release l) := by
  obtain ⟨s, x⟩ := p
  obtain ⟨s', y⟩ := q
  obtain ⟨rfl, hselector⟩ := h
  cases l with
  | shared b => exact ⟨rfl, hselector⟩
  | checkedOut b =>
    cases hselector with
    | roundRobin => exact .refl _
    | leastResponse halike => exact ⟨rfl, .leastResponse (halike.file s b)⟩

/-! ### What two leases do to the pool -/

theorem record_comm (h : b ≠ c) (o o' : Outcome) :
    (p.record b o).record c o' = (p.record c o').record b o :=
  congrArg (fun s => { p with standings := s }) (p.standings.record_comm h o o')

theorem record_release (h : l.backend ≠ b) (o : Outcome) :
    (p.record b o).release l = (p.release l).record b o := by
  obtain ⟨s, x⟩ := p
  cases l with
  | shared c => rfl
  | checkedOut c =>
    cases x with
    | roundRobin cursor => rfl
    | leastResponse q =>
      have hsame : (s.record b o).get c = s.get c := Standings.record_other o h
      have hfile : q.file (s.record b o) c = q.file s c := Partition.file_congr hsame
      show Pool.mk (s.record b o) (.leastResponse (q.file (s.record b o) c)) = _
      rw [hfile]
      rfl

theorem release_comm (p : Pool n) (l m : Lease n) :
    ((p.release l).release m).Alike ((p.release m).release l) := by
  obtain ⟨s, x⟩ := p
  cases x with
  | roundRobin cursor => cases l <;> cases m <;> exact .refl _
  | leastResponse q =>
    cases l with
    | shared b => cases m <;> exact .refl _
    | checkedOut b =>
      cases m with
      | shared c => exact .refl _
      | checkedOut c => exact ⟨rfl, .leastResponse (q.file_comm s b c)⟩

end Pool

namespace Traffic
variable {n : Nat} {t u v : Traffic n} {p : Partition n} {e f : Event n} {j k : Nat}
  {l m : Lease n} {es ds : List (Event n)}

theorem Alike.refl (t : Traffic n) : t.Alike t :=
  ⟨.refl _, rfl, rfl⟩

theorem Alike.trans (h : t.Alike u) (h' : u.Alike v) : t.Alike v :=
  ⟨h.pool.trans h'.pool, h.leases.trans h'.leases, h.sweeps.trans h'.sweeps⟩

/-! ### Events of leases -/

/-- The lease that an event is about. -/
def Event.lease? : Event n → Option Nat
  | .report k _ | .release k => some k
  | _ => none

/-- What an event about this lease does to the pool. -/
def Event.onPool (l : Lease n) : Event n → Pool n → Pool n
  | .report _ o, p => p.record l.backend o
  | .release _, p => p.release l
  | _, p => p

/-- What an event about a lease does to the leases. -/
def Event.onLeases (leases : List (Option (Lease n))) : Event n → List (Option (Lease n))
  | .release k => leases.set k none
  | _ => leases

theorem Event.of_lease? (h : e.lease? = some k) : (∃ o, e = .report k o) ∨ e = .release k := by
  cases e with
  | report j o =>
    obtain rfl := Option.some.inj h
    exact .inl ⟨o, rfl⟩
  | release j =>
    obtain rfl := Option.some.inj h
    exact .inr rfl
  | select | record _ _ | reclassify | sweepBegin | sweepProbe _ _ _ | sweepEnd _ => cases h

theorem next_of_lease (he : e.lease? = some k) (hl : t.lease? k = some l) :
    t.next e = { t with pool := e.onPool l t.pool, leases := e.onLeases t.leases } := by
  rcases Event.of_lease? he with ⟨o, rfl⟩ | rfl
  · exact next_report hl o
  · exact next_release hl

/-- What is said about a lease that is not out is lost. -/
theorem next_of_no_lease (he : e.lease? = some k) (hl : t.lease? k = none) : t.next e = t := by
  rcases Event.of_lease? he with ⟨o, rfl⟩ | rfl <;> simp only [next, step, hl]

theorem lease?_next_other (he : e.lease? = some k) (hjk : j ≠ k) :
    (t.next e).lease? j = t.lease? j := by
  cases hl : t.lease? k with
  | none => rw [next_of_no_lease he hl]
  | some l =>
    rw [next_of_lease he hl]
    rcases Event.of_lease? he with ⟨o, rfl⟩ | rfl
    · rfl
    · exact join_set_other hjk none

theorem Alike.next (h : t.Alike u) (he : e.lease? = some k) : (t.next e).Alike (u.next e) := by
  have hsame : t.lease? k = u.lease? k := by rw [lease?, h.leases, lease?]
  cases hl : t.lease? k with
  | none =>
    rw [next_of_no_lease he hl, next_of_no_lease he (hsame ▸ hl)]
    exact h
  | some l =>
    rw [next_of_lease he hl, next_of_lease he (hsame ▸ hl)]
    refine ⟨?_, congrArg e.onLeases h.leases, h.sweeps⟩
    rcases Event.of_lease? he with ⟨o, rfl⟩ | rfl
    · exact h.pool.record l.backend o
    · exact h.pool.release l

/-! ### Interchange -/

theorem onPool_comm (he : e.lease? = some j) (hf : f.lease? = some k)
    (h : l.backend ≠ m.backend) (p : Pool n) :
    (f.onPool m (e.onPool l p)).Alike (e.onPool l (f.onPool m p)) := by
  rcases Event.of_lease? he with ⟨o, rfl⟩ | rfl <;>
    rcases Event.of_lease? hf with ⟨o', rfl⟩ | rfl <;> simp only [Event.onPool]
  · rw [Pool.record_comm h]
    exact .refl _
  · rw [Pool.record_release h.symm]
    exact .refl _
  · rw [Pool.record_release h]
    exact .refl _
  · exact p.release_comm l m

theorem onLeases_comm (he : e.lease? = some j) (hf : f.lease? = some k) (hjk : j ≠ k)
    (leases : List (Option (Lease n))) :
    f.onLeases (e.onLeases leases) = e.onLeases (f.onLeases leases) := by
  rcases Event.of_lease? he with ⟨o, rfl⟩ | rfl <;>
    rcases Event.of_lease? hf with ⟨o', rfl⟩ | rfl <;> simp only [Event.onLeases]
  exact List.set_comm _ _ hjk

/-- **Two events of different leases can be interchanged.** -/
theorem Sound.interchange (h : Sound t p) (he : e.lease? = some j) (hf : f.lease? = some k)
    (hjk : j ≠ k) : ((t.next e).next f).Alike ((t.next f).next e) := by
  have hj : (t.next f).lease? j = t.lease? j := lease?_next_other hf hjk
  have hk : (t.next e).lease? k = t.lease? k := lease?_next_other he (Ne.symm hjk)
  cases hl : t.lease? j with
  | none =>
    rw [next_of_no_lease he hl, next_of_no_lease he (hj.trans hl)]
    exact .refl _
  | some l =>
    cases hm : t.lease? k with
    | none =>
      rw [next_of_no_lease hf hm, next_of_no_lease hf (hk.trans hm)]
      exact .refl _
    | some m =>
      have hapart : l.backend ≠ m.backend := fun hb => hjk (h.lease_unique hl hm hb)
      rw [next_of_lease hf (hk.trans hm), next_of_lease he (hj.trans hl), next_of_lease he hl,
        next_of_lease hf hm]
      exact ⟨onPool_comm he hf hapart t.pool, onLeases_comm he hf hjk t.leases, rfl⟩

/-! ### Turns -/

/-- All these events are about leases. -/
def OfLeases (es : List (Event n)) : Prop :=
  ∀ e ∈ es, ∃ k, e.lease? = some k

/-- Of these events, those about one lease. -/
def ofLease (k : Nat) (es : List (Event n)) : List (Event n) :=
  es.filter fun e => e.lease? = some k

theorem ofLease_append (k : Nat) (es ds : List (Event n)) :
    ofLease k (es ++ ds) = ofLease k es ++ ofLease k ds :=
  List.filter_append _ _

theorem ofLease_cons_same (he : e.lease? = some k) (es : List (Event n)) :
    ofLease k (e :: es) = e :: ofLease k es :=
  List.filter_cons_of_pos (by simp [he])

theorem ofLease_cons_other (he : e.lease? = some k) (hjk : j ≠ k) (es : List (Event n)) :
    ofLease j (e :: es) = ofLease j es :=
  List.filter_cons_of_neg (by simpa [he] using Ne.symm hjk)

theorem ofLease_eq_nil_iff : ofLease k es = [] ↔ ∀ e ∈ es, e.lease? ≠ some k := by
  simp [ofLease]

theorem eq_nil_of_ofLease (hes : OfLeases es) (h : ∀ k, ofLease k es = []) : es = [] := by
  refine List.eq_nil_iff_forall_not_mem.mpr fun e he => ?_
  obtain ⟨k, hk⟩ := hes e he
  exact ofLease_eq_nil_iff.mp (h k) e he hk

/-- The first event about a lease, with what comes before and after it. -/
theorem ofLease_eq_cons (h : ofLease k es = e :: ds) : ∃ before after,
    es = before ++ e :: after ∧ ofLease k before = [] ∧ ofLease k after = ds := by
  obtain ⟨before, after, rfl, hothers, _, hafter⟩ := List.filter_eq_cons_iff.mp h
  exact ⟨before, after, rfl, List.filter_eq_nil_iff.mpr hothers, hafter⟩

theorem Alike.run (h : t.Alike u) (hes : OfLeases es) : (t.run es).Alike (u.run es) := by
  induction es generalizing t u with
  | nil => exact h
  | cons e rest ih =>
    obtain ⟨k, he⟩ := hes e List.mem_cons_self
    exact ih (h.next he) fun d hd => hes d (List.mem_cons_of_mem e hd)

/-- An event may come first as well as after any events of other leases. -/
theorem Sound.run_first (h : Sound t p) (he : e.lease? = some k) (hothers : ofLease k ds = [])
    (hrest : OfLeases (ds ++ es)) :
    ((t.next e).run (ds ++ es)).Alike (t.run (ds ++ e :: es)) := by
  induction ds generalizing t p with
  | nil => exact .refl _
  | cons d rest ih =>
    obtain ⟨j, hd⟩ := hrest d List.mem_cons_self
    have hkj : k ≠ j := by
      rintro rfl
      exact ofLease_eq_nil_iff.mp hothers d List.mem_cons_self hd
    rw [ofLease_cons_other hd hkj] at hothers
    have hrest' : OfLeases (rest ++ es) := fun c hc => hrest c (List.mem_cons_of_mem d hc)
    obtain ⟨q, _, hq⟩ := h.step d
    exact ((h.interchange he hd hkj).run hrest').trans (ih hq hothers hrest')

/-- **Turns do not matter.** If every lease does the same in two runs, and in the same order, then
they end alike, whichever lease had its turn before which. -/
theorem Sound.run_alike (h : Sound t p) (hes : OfLeases es) (hds : OfLeases ds)
    (hsame : ∀ k, ofLease k es = ofLease k ds) : (t.run es).Alike (t.run ds) := by
  induction es generalizing t p ds with
  | nil =>
    obtain rfl := eq_nil_of_ofLease hds fun k => (hsame k).symm
    exact .refl _
  | cons e rest ih =>
    obtain ⟨k, he⟩ := hes e List.mem_cons_self
    -- In the other run `e` is the first event about its lease, so it could as well come first.
    have hfirst := hsame k
    rw [ofLease_cons_same he] at hfirst
    obtain ⟨before, after, rfl, hothers, hafter⟩ := ofLease_eq_cons hfirst.symm
    have hturns : OfLeases (before ++ after) := by
      intro d hd
      refine hds d ?_
      simp only [List.mem_append, List.mem_cons] at hd ⊢
      exact hd.imp_right .inr
    have hleft : ∀ i, ofLease i rest = ofLease i (before ++ after) := by
      intro i
      rw [ofLease_append]
      by_cases hik : i = k
      · subst hik
        rw [hothers, hafter, List.nil_append]
      · have hi := hsame i
        rwa [ofLease_append, ofLease_cons_other he hik, ofLease_cons_other he hik] at hi
    obtain ⟨q, _, hq⟩ := h.step e
    exact (ih hq (fun d hd => hes d (List.mem_cons_of_mem e hd)) hturns hleft).trans
      (h.run_first he hothers hturns)

end Traffic
end Sluice
