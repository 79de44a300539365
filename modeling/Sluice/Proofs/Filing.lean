import Sluice.Pool.Partition
import Sluice.Proofs.HeapOrder

/-! What filing and taking out do to a partition.

Three things are followed through every operation: who is filed (`members`, up to order), the order
of the heap, and for each backend whether its filing agrees with a standing (`Agrees`). Filing by a
standing makes the backend agree with that standing and disturbs no other. -/
namespace Sluice.Partition
variable {n : Nat} {s : Standings n} {p q : Partition n} {b c : Fin n}

/-! ### Members -/

theorem file_healthy (h : s.isHealthy b = true) :
    p.file s b = { p with healthy := p.healthy.push ⟨s.latency b, b⟩ } :=
  if_pos h

theorem file_unhealthy (h : s.isHealthy b = false) :
    p.file s b = { p with unhealthy := p.unhealthy ++ [b] } :=
  if_neg (by rw [h]; decide)

theorem file_members (s : Standings n) (p : Partition n) (b : Fin n) :
    (p.file s b).members.Perm (b :: p.members) := by
  cases h : s.isHealthy b with
  | true =>
    rw [file_healthy h]
    exact (LatencyHeap.push_items_perm p.healthy _).append_right p.unhealthy
  | false =>
    rw [file_unhealthy h, members, ← List.append_assoc]
    exact List.perm_append_comm

theorem fileAll_members (s : Standings n) (p : Partition n) (bs : List (Fin n)) :
    (p.fileAll s bs).members.Perm (bs ++ p.members) := by
  induction bs generalizing p with
  | nil => exact .refl _
  | cons b rest ih =>
    refine (ih (p.file s b)).trans ?_
    refine ((file_members s p b).append_left rest).trans ?_
    exact List.perm_middle

theorem reclassify_members (s : Standings n) (p : Partition n) :
    (p.reclassify s).members.Perm p.members := by
  have h := fileAll_members s empty p.members
  rwa [show (empty : Partition n).members = [] from rfl, List.append_nil] at h

theorem ofStandings_members (s : Standings n) :
    (ofStandings s).members.Perm (List.finRange n) := by
  have h := fileAll_members s empty (List.finRange n)
  rwa [show (empty : Partition n).members = [] from rfl, List.append_nil] at h

/-- Taking out is a pop of the heap, and leaves the list alone. -/
theorem checkOut_eq_ok (h : p.checkOut = .ok (b, q)) :
    ∃ e rest, p.healthy.pop? = some (e, rest) ∧ b = e.item ∧ q = { p with healthy := rest } := by
  unfold checkOut at h
  split at h
  · next e rest hpop =>
    obtain ⟨rfl, rfl⟩ := Prod.mk.inj (Except.ok.inj h)
    exact ⟨e, rest, hpop, rfl, rfl⟩
  · cases h

theorem checkOut_of_pop? {e : LatencyHeap.Entry (Fin n)} {rest : LatencyHeap (Fin n)}
    (h : p.healthy.pop? = some (e, rest)) :
    p.checkOut = .ok (e.item, { p with healthy := rest }) := by
  rw [checkOut, h]

theorem checkOut_items (h : p.checkOut = .ok (b, q)) :
    p.healthy.items.Perm (b :: q.healthy.items) := by
  obtain ⟨e, rest, hpop, rfl, rfl⟩ := checkOut_eq_ok h
  exact LatencyHeap.pop?_items_perm hpop

theorem checkOut_size (h : p.checkOut = .ok (b, q)) :
    p.healthy.size = q.healthy.size + 1 := by
  have hitems := (checkOut_items h).length_eq
  rwa [LatencyHeap.length_items, List.length_cons, LatencyHeap.length_items] at hitems

/-- Only an empty heap turns a request away. -/
theorem checkOut_eq_error {error : SelectionError} (h : p.checkOut = .error error) :
    p.healthy.size = 0 := by
  cases hpop : p.healthy.pop? with
  | none => exact LatencyHeap.pop?_eq_none_iff.mp hpop
  | some taken =>
    rw [checkOut_of_pop? hpop] at h
    cases h

theorem checkOut_members (h : p.checkOut = .ok (b, q)) : p.members.Perm (b :: q.members) := by
  have hitems := checkOut_items h
  obtain ⟨e, rest, hpop, rfl, rfl⟩ := checkOut_eq_ok h
  exact hitems.append_right p.unhealthy

/-! ### The order of the heap -/

theorem file_ordered (h : p.healthy.Ordered) (s : Standings n) (b : Fin n) :
    (p.file s b).healthy.Ordered := by
  cases hb : s.isHealthy b with
  | true =>
    rw [file_healthy hb]
    exact LatencyHeap.push_ordered h _
  | false =>
    rw [file_unhealthy hb]
    exact h

theorem fileAll_ordered (h : p.healthy.Ordered) (s : Standings n) (bs : List (Fin n)) :
    (p.fileAll s bs).healthy.Ordered := by
  induction bs generalizing p with
  | nil => exact h
  | cons b rest ih => exact ih (file_ordered h s b)

theorem reclassify_ordered (s : Standings n) (p : Partition n) :
    (p.reclassify s).healthy.Ordered :=
  fileAll_ordered LatencyHeap.empty_ordered s p.members

theorem ofStandings_ordered (s : Standings n) : (ofStandings s).healthy.Ordered :=
  fileAll_ordered LatencyHeap.empty_ordered s (List.finRange n)

theorem checkOut_ordered (ho : p.healthy.Ordered) (h : p.checkOut = .ok (b, q)) :
    q.healthy.Ordered := by
  obtain ⟨e, rest, hpop, rfl, rfl⟩ := checkOut_eq_ok h
  exact LatencyHeap.pop?_ordered ho hpop

/-! ### Agreement -/

/-- As far as `b` is filed, it is filed by its standing: in the heap only while healthy and under
its latency, in the list only while unhealthy. -/
structure Agrees (s : Standings n) (p : Partition n) (b : Fin n) : Prop where
  up : ∀ e ∈ p.healthy.toList, e.item = b → s.isHealthy b = true ∧ e.latency = s.latency b
  down : b ∈ p.unhealthy → s.isHealthy b = false

theorem mem_items {e : LatencyHeap.Entry (Fin n)} (h : e ∈ p.healthy.toList) :
    e.item ∈ p.healthy.items :=
  List.mem_map_of_mem h

theorem agrees_of_not_mem (h : b ∉ p.members) : Agrees s p b := by
  refine ⟨?_, ?_⟩
  · rintro e he rfl
    exact absurd (List.mem_append_left _ (mem_items he)) h
  · intro hb
    exact absurd (List.mem_append_right _ hb) h

/-- Filing disturbs no agreement, be it that of the backend filed. -/
theorem Agrees.file (h : Agrees s p c) (b : Fin n) : Agrees s (p.file s b) c := by
  cases hb : s.isHealthy b with
  | true =>
    rw [file_healthy hb]
    refine ⟨?_, h.down⟩
    intro e he hec
    rcases List.mem_cons.mp ((LatencyHeap.push_perm p.healthy _).mem_iff.mp he) with rfl | he
    · subst hec
      exact ⟨hb, rfl⟩
    · exact h.up e he hec
  | false =>
    rw [file_unhealthy hb]
    refine ⟨h.up, ?_⟩
    intro hc
    rcases List.mem_append.mp hc with hc | hc
    · exact h.down hc
    · obtain rfl := List.mem_singleton.mp hc
      exact hb

theorem Agrees.fileAll (h : Agrees s p c) (bs : List (Fin n)) : Agrees s (p.fileAll s bs) c := by
  induction bs generalizing p with
  | nil => exact h
  | cons b rest ih => exact ih (h.file b)

theorem agrees_empty (s : Standings n) (b : Fin n) : Agrees s empty b :=
  agrees_of_not_mem (List.not_mem_nil)

/-- Filing everything again makes every backend agree. -/
theorem agrees_reclassify (s : Standings n) (p : Partition n) (b : Fin n) :
    Agrees s (p.reclassify s) b :=
  (agrees_empty s b).fileAll p.members

theorem agrees_ofStandings (s : Standings n) (b : Fin n) : Agrees s (ofStandings s) b :=
  (agrees_empty s b).fileAll (List.finRange n)

theorem Agrees.checkOut (h : Agrees s p c) (hout : p.checkOut = .ok (b, q)) : Agrees s q c := by
  obtain ⟨e, rest, hpop, rfl, rfl⟩ := checkOut_eq_ok hout
  refine ⟨?_, h.down⟩
  intro d hd
  exact h.up d ((LatencyHeap.pop?_perm hpop).mem_iff.mpr (List.mem_cons_of_mem e hd))

/-- An outcome on another backend changes nothing for `c`. -/
theorem Agrees.record_other (h : Agrees s p c) (o : Outcome) (hcb : c ≠ b) :
    Agrees (s.record b o) p c := by
  have hsame : (s.record b o).get c = s.get c := Standings.record_other o hcb
  have hhealth : (s.record b o).isHealthy c = s.isHealthy c := by
    rw [Standings.isHealthy, hsame, Standings.isHealthy]
  have hlatency : (s.record b o).latency c = s.latency c := by
    rw [Standings.latency, hsame, Standings.latency]
  refine ⟨?_, ?_⟩
  · rw [hhealth, hlatency]
    exact h.up
  · rw [hhealth]
    exact h.down

/-- Of a backend that is filed, agreement says which way. -/
theorem Agrees.mem_items_iff (h : Agrees s p b) (hb : b ∈ p.members) :
    b ∈ p.healthy.items ↔ s.isHealthy b = true := by
  constructor
  · intro hup
    obtain ⟨e, he, heb⟩ := List.mem_map.mp hup
    exact (h.up e he heb).1
  · intro hhealthy
    rcases List.mem_append.mp hb with hup | hdown
    · exact hup
    · rw [h.down hdown] at hhealthy
      cases hhealthy

/-- Where all agree, the heap holds the healthy ones of the backends filed. -/
theorem filter_members (h : ∀ b, Agrees s p b) :
    p.members.filter s.isHealthy = p.healthy.items := by
  have hup : p.healthy.items.filter s.isHealthy = p.healthy.items := by
    refine List.filter_eq_self.mpr fun b hb => ?_
    exact ((h b).mem_items_iff (List.mem_append_left _ hb)).mp hb
  have hdown : p.unhealthy.filter s.isHealthy = [] := by
    refine List.filter_eq_nil_iff.mpr fun b hb => ?_
    rw [(h b).down hb]
    decide
  rw [members, List.filter_append, hup, hdown, List.append_nil]

/-- Where all agree, the list holds the unhealthy ones of the backends filed. -/
theorem filter_members_not (h : ∀ b, Agrees s p b) :
    p.members.filter (fun b => !s.isHealthy b) = p.unhealthy := by
  have hup : p.healthy.items.filter (fun b => !s.isHealthy b) = [] := by
    refine List.filter_eq_nil_iff.mpr fun b hb => ?_
    rw [((h b).mem_items_iff (List.mem_append_left _ hb)).mp hb]
    decide
  have hdown : p.unhealthy.filter (fun b => !s.isHealthy b) = p.unhealthy := by
    refine List.filter_eq_self.mpr fun b hb => ?_
    rw [(h b).down hb]
    rfl
  rw [members, List.filter_append, hup, hdown, List.nil_append]

end Sluice.Partition
