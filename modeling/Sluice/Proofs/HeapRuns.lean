import Sluice.Proofs.HeapOrder

/-! A latency heap through any run of pushes and pops.

An operation keeps the order, and makes up for what it takes out and puts in: the entries after it,
with the one it has taken out, are the entries before it, with the one it has put in. By induction
a heap holds what its whole history has put in and not taken out. A pop takes out a fastest of the
entries that are there, so pops in a row give them in the order of their latencies, each pop one
fewer than before; after as many pops as there are entries, all of them have come out. -/
namespace Sluice.LatencyHeap
variable {α : Type} {h : LatencyHeap α} {e : Entry α}

/-! ### Runs -/

/-- What is done to a heap. -/
inductive Op (α : Type) where
  | push (entry : Entry α)
  | pop

/-- The entry that is put in. -/
def Op.entry? : Op α → Option (Entry α)
  | push e => some e
  | pop => none

/-- One operation, and the entry it takes out. A pop leaves an empty heap as it is. -/
def step (h : LatencyHeap α) : Op α → Option (Entry α) × LatencyHeap α
  | .push e => (none, h.push e)
  | .pop =>
    match h.pop? with
    | some (e, rest) => (some e, rest)
    | none => (none, h)

def run (h : LatencyHeap α) : List (Op α) → LatencyHeap α
  | [] => h
  | op :: rest => run (h.step op).2 rest

/-- The entries that a run takes out, in order. -/
def popped (h : LatencyHeap α) : List (Op α) → List (Entry α)
  | [] => []
  | op :: rest => (h.step op).1.toList ++ popped (h.step op).2 rest

/-- The entries that a run puts in, in order. -/
def pushed (ops : List (Op α)) : List (Entry α) :=
  ops.filterMap Op.entry?

/-! ### One operation -/

theorem step_ordered (ho : h.Ordered) (op : Op α) : (h.step op).2.Ordered := by
  cases op with
  | push e => exact push_ordered ho e
  | pop =>
    cases hp : h.pop? with
    | none => simpa only [step, hp] using ho
    | some taken => simpa only [step, hp] using pop?_ordered ho hp

theorem step_perm (h : LatencyHeap α) (op : Op α) :
    ((h.step op).1.toList ++ (h.step op).2.toList).Perm (op.entry?.toList ++ h.toList) := by
  cases op with
  | push e => exact push_perm h e
  | pop =>
    cases hp : h.pop? with
    | none => simp only [step, hp, Op.entry?, List.Perm.refl]
    | some taken =>
      simp only [step, hp, Op.entry?]
      exact (pop?_perm hp).symm

theorem peek?_eq (h : LatencyHeap α) : h.peek? = h.pop?.map Prod.fst := by
  cases hp : h.pop? with
  | none =>
    have hsize : h.entries.size = 0 := pop?_eq_none_iff.mp hp
    simp [peek?, hsize]
  | some taken => exact peek?_of_pop? hp

theorem peek?_eq_none_iff : h.peek? = none ↔ h.toList = [] := by
  rw [peek?_eq, Option.map_eq_none_iff, pop?_eq_none_iff, ← length_toList, List.length_eq_zero_iff]

theorem step_pop_fst (h : LatencyHeap α) : (h.step .pop).1 = h.peek? := by
  rw [peek?_eq]
  cases hp : h.pop? <;> simp only [step, hp, Option.map]

/-- One of these entries, and none is faster. -/
structure IsFastest (e : Entry α) (entries : List (Entry α)) : Prop where
  mem : e ∈ entries
  least : ∀ d ∈ entries, e.latency ≤ d.latency

theorem peek?_fastest (ho : h.Ordered) (hp : h.peek? = some e) : IsFastest e h.toList := by
  rw [peek?_eq] at hp
  obtain ⟨⟨_, rest⟩, hpop, rfl⟩ := Option.map_eq_some_iff.mp hp
  exact ⟨(pop?_perm hpop).mem_iff.mpr List.mem_cons_self, pop?_least ho hpop⟩

/-! ### Whole runs -/

theorem run_ordered (ho : h.Ordered) (ops : List (Op α)) : (h.run ops).Ordered := by
  induction ops generalizing h with
  | nil => exact ho
  | cons op rest ih => exact ih (step_ordered ho op)

/-- What has come out and what is still there are what was there and what has been put in. -/
theorem run_perm (h : LatencyHeap α) (ops : List (Op α)) :
    (h.popped ops ++ (h.run ops).toList).Perm (pushed ops ++ h.toList) := by
  induction ops generalizing h with
  | nil => exact .refl _
  | cons op rest ih =>
    have hpushed : pushed (op :: rest) = op.entry?.toList ++ pushed rest := by
      cases op <;> rfl
    have hlater := (ih (h.step op).2).append_left (h.step op).1.toList
    have hnow := (step_perm h op).append_left (pushed rest)
    rw [hpushed, popped, run, List.append_assoc, List.append_assoc]
    refine hlater.trans ?_
    refine (List.perm_append_comm_assoc _ _ _).trans ?_
    exact hnow.trans (List.perm_append_comm_assoc _ _ _)

/-! ### Pops in a row -/

/-- As many pops in a row. -/
def pops (k : Nat) : List (Op α) :=
  List.replicate k .pop

theorem pushed_pops (k : Nat) : pushed (pops k : List (Op α)) = [] := by
  rw [pushed, pops, List.filterMap_replicate_of_none rfl]

theorem run_pops_size (h : LatencyHeap α) (k : Nat) : (h.run (pops k)).size = h.size - k := by
  induction k generalizing h with
  | zero => rfl
  | succ k ih =>
    show ((h.step .pop).2.run (pops k)).size = h.size - (k + 1)
    rw [ih]
    cases hp : h.pop? with
    | none =>
      have hsize := pop?_eq_none_iff.mp hp
      simp only [step, hp]
      omega
    | some taken =>
      have hlength := (pop?_perm hp).length_eq
      rw [List.length_cons, length_toList, length_toList] at hlength
      simp only [step, hp]
      omega

/-- The entries come out in the order of their latencies. -/
theorem popped_pops_sorted (ho : h.Ordered) (k : Nat) :
    (h.popped (pops k)).Pairwise (fun d e => d.latency ≤ e.latency) := by
  induction k generalizing h with
  | zero => exact .nil
  | succ k ih =>
    show ((h.step .pop).1.toList ++ (h.step .pop).2.popped (pops k)).Pairwise _
    have hlater := ih (step_ordered ho .pop)
    cases hp : h.pop? with
    | none =>
      simp only [step, hp] at hlater ⊢
      exact hlater
    | some taken =>
      obtain ⟨e, rest⟩ := taken
      simp only [step, hp] at hlater ⊢
      refine List.pairwise_cons.mpr ⟨?_, hlater⟩
      intro d hd
      have hrest : d ∈ rest.toList := by
        have hall := run_perm rest (pops k)
        rw [pushed_pops, List.nil_append] at hall
        exact hall.mem_iff.mp (List.mem_append_left _ hd)
      exact pop?_least ho hp d ((pop?_perm hp).mem_iff.mpr (List.mem_cons_of_mem e hrest))

/-- **A latency heap gives out the fastest first**, after any pushes and pops of an empty heap. No
entry is faster than its parent; the entries are those that were pushed and have not been popped;
what a peek shows and a pop takes out is a fastest of them, and there is one unless there are no
entries. Popped until it is empty, the heap gives all its entries in the order of their
latencies. -/
theorem fastest_after_any_run (ops : List (Op α)) :
    let h := (empty : LatencyHeap α).run ops
    h.Ordered ∧
    ((empty : LatencyHeap α).popped ops ++ h.toList).Perm (pushed ops) ∧
    (h.step .pop).1 = h.peek? ∧
    (h.peek? = none ↔ h.toList = []) ∧
    (∀ e, h.peek? = some e → IsFastest e h.toList) ∧
    (h.run (pops h.size)).toList = [] ∧
    (h.popped (pops h.size)).Perm h.toList ∧
    (h.popped (pops h.size)).Pairwise fun d e => d.latency ≤ e.latency := by
  intro h
  have ho : h.Ordered := run_ordered empty_ordered ops
  have hheld : ((empty : LatencyHeap α).popped ops ++ h.toList).Perm (pushed ops) := by
    have hall := run_perm (empty : LatencyHeap α) ops
    rwa [show (empty : LatencyHeap α).toList = [] from rfl, List.append_nil] at hall
  have hnothing : (h.run (pops h.size)).toList = [] := by
    rw [← List.length_eq_zero_iff, length_toList, run_pops_size, Nat.sub_self]
  have hout : (h.popped (pops h.size)).Perm h.toList := by
    have hall := run_perm h (pops h.size)
    rwa [hnothing, pushed_pops, List.append_nil, List.nil_append] at hall
  exact ⟨ho, hheld, step_pop_fst h, peek?_eq_none_iff, fun _ => peek?_fastest ho, hnothing, hout,
    popped_pops_sorted ho h.size⟩

end Sluice.LatencyHeap
