/-! A heap of entries keyed by latency, the least at the root.

Entries are ordered by latency, the faster one being the greater, and a greatest entry is at the
root. The heap is an array in which the children of position `i` are at `2i + 1` and `2i + 2`. A new
entry rises from the end. To take the root, the last entry replaces it, sinks to the bottom along
the faster child — the right one of two that are equally fast — and rises from there. Ties between
latencies are decided by these moves alone. -/
namespace Sluice

/-- An item with the latency it was filed under. -/
structure LatencyHeap.Entry (α : Type) where
  latency : Nat
  item : α
deriving DecidableEq, Repr

structure LatencyHeap (α : Type) where
  entries : Array (LatencyHeap.Entry α)
deriving Repr

namespace LatencyHeap
variable {α : Type} {n : Nat}

/-! ### The order of entries -/

namespace Entry
variable {a b : Entry α}

/-- The faster of two entries is the greater. -/
instance : Ord (Entry α) where
  compare a b := compare b.latency a.latency

/-- Equally fast; the items are not looked at. -/
def ties (a b : Entry α) : Bool :=
  a.latency = b.latency

theorem compare_eq_gt : compare a b = .gt ↔ a.latency < b.latency :=
  Nat.compare_eq_gt

theorem isLE_compare : (compare a b).isLE ↔ b.latency ≤ a.latency :=
  Nat.isLE_compare

theorem ties_iff : a.ties b ↔ compare a b = .eq := by
  rw [ties, decide_eq_true_eq, eq_comm]
  exact Nat.compare_eq_eq.symm

end Entry

/-! ### Moves -/

def parent (i : Nat) : Nat :=
  (i - 1) / 2

/-- Exchanges the entry with its parent while it is the greater. -/
def rise (a : Vector (Entry α) n) (i : Fin n) : Vector (Entry α) n :=
  if hi : i.val = 0 then a
  else
    let p : Fin n := ⟨parent i, by unfold parent; omega⟩
    if compare a[i] a[p] = .gt then rise (a.swap i p) p else a
termination_by i.val
decreasing_by simp only [parent]; omega

/-- The child that a sinking entry is exchanged with, if there is any. -/
def fasterChild (a : Vector (Entry α) n) (i : Fin n) : Option (Fin n) :=
  if hr : 2 * i.val + 2 < n then
    if (compare a[2 * i.val + 1] a[2 * i.val + 2]).isLE then some ⟨2 * i.val + 2, hr⟩
    else some ⟨2 * i.val + 1, by omega⟩
  else if hl : 2 * i.val + 1 < n then some ⟨2 * i.val + 1, hl⟩
  else none

theorem fasterChild_gt {a : Vector (Entry α) n} {i c : Fin n} (h : fasterChild a i = some c) :
    i.val < c.val := by
  unfold fasterChild at h
  split at h
  · split at h <;> cases h <;> simp only <;> omega
  · split at h
    · cases h; simp only; omega
    · cases h

/-- Exchanges the entry with its faster child down to the bottom, whatever its own latency, and
tells where it came to rest. -/
def sink (a : Vector (Entry α) n) (i : Fin n) : Vector (Entry α) n × Fin n :=
  match h : fasterChild a i with
  | none => (a, i)
  | some c => sink (a.swap i c) c
termination_by n - i.val
decreasing_by
  have := fasterChild_gt h
  omega

/-! ### Heaps -/

def empty : LatencyHeap α := ⟨#[]⟩

def size (h : LatencyHeap α) : Nat :=
  h.entries.size

/-- The entries in array order. -/
def toList (h : LatencyHeap α) : List (Entry α) :=
  h.entries.toList

def items (h : LatencyHeap α) : List α :=
  h.toList.map Entry.item

def push (h : LatencyHeap α) (e : Entry α) : LatencyHeap α :=
  let a : Vector (Entry α) (h.entries.size + 1) := (Vector.mk h.entries rfl).push e
  ⟨(rise a ⟨h.entries.size, by omega⟩).toArray⟩

def peek? (h : LatencyHeap α) : Option (Entry α) :=
  h.entries[0]?

/-- The root and the heap without it. -/
def pop? (h : LatencyHeap α) : Option (Entry α × LatencyHeap α) :=
  match h.entries.back? with
  | none => none
  | some last =>
    let rest := h.entries.pop
    if hr : 0 < rest.size then
      let sunk := sink ((Vector.mk rest rfl).set 0 last) ⟨0, hr⟩
      some (rest[0], ⟨(rise sunk.1 sunk.2).toArray⟩)
    else some (last, empty)

end LatencyHeap
end Sluice
