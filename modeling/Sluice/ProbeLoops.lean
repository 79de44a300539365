/-! Periodic probing: one flag, one wake-up, and the loops that were spawned.

Starting raises the flag and spawns a loop; starting again while the flag is up does nothing. A loop
tests the flag, runs one cycle of probes, waits for its timer or for a wake-up, and tests again; it
ends when it finds the flag down. Stopping lowers the flag and wakes the loop that has waited
longest; with no loop waiting, the wake-up is kept for the next one that comes to wait. A cycle
under way is never cut short. -/
namespace Sluice

namespace ProbeLoops

/-- What lets a loop test the flag. -/
inductive Cause where
  | spawned
  | timer
  | woken
deriving DecidableEq, Repr

/-- Where a loop is. -/
inductive Phase where
  | testing (cause : Cause)
  | cycling (cause : Cause)
  | waiting
  | ended
deriving DecidableEq, Repr

end ProbeLoops

/-- The flag, the wake-up that is kept, the loops by number, and those that wait, in order. -/
structure ProbeLoops where
  running : Bool
  permit : Bool
  loops : List ProbeLoops.Phase
  queue : List Nat
deriving DecidableEq, Repr

namespace ProbeLoops

inductive Event where
  | start
  | stop
  | test (loop : Nat)
  | cycled (loop : Nat)
  | elapsed (loop : Nat)
deriving DecidableEq, Repr

inductive Answer where
  | spawned (loop : Nat)
  | alreadyRunning
  | stopped
  | notRunning
  | cycle (cause : Cause)
  | ended
  | waiting
  | woken
  | notThere
deriving DecidableEq, Repr

def initial : ProbeLoops :=
  ⟨false, false, [], []⟩

def phase? (p : ProbeLoops) (k : Nat) : Option Phase :=
  p.loops[k]?

def move (p : ProbeLoops) (k : Nat) (phase : Phase) : ProbeLoops :=
  { p with loops := p.loops.set k phase }

/-- Wakes the loop that has waited longest, or keeps the wake-up; a second one is not kept. -/
def wake (p : ProbeLoops) : ProbeLoops :=
  match p.queue with
  | [] => { p with permit := true }
  | k :: rest => { p.move k (.testing .woken) with queue := rest }

def step (p : ProbeLoops) : Event → Answer × ProbeLoops
  | .start =>
    if p.running then (.alreadyRunning, p)
    else
      (.spawned p.loops.length,
        { p with running := true, loops := p.loops ++ [.testing .spawned] })
  | .stop => if p.running then (.stopped, { p with running := false }.wake) else (.notRunning, p)
  | .test k =>
    match p.phase? k with
    | some (.testing cause) =>
      if p.running then (.cycle cause, p.move k (.cycling cause)) else (.ended, p.move k .ended)
    | _ => (.notThere, p)
  | .cycled k =>
    match p.phase? k with
    | some (.cycling _) =>
      if p.permit then (.woken, { p.move k (.testing .woken) with permit := false })
      else (.waiting, { p.move k .waiting with queue := p.queue ++ [k] })
    | _ => (.notThere, p)
  | .elapsed k =>
    match p.phase? k with
    | some .waiting => (.woken, { p.move k (.testing .timer) with queue := p.queue.erase k })
    | _ => (.notThere, p)

def next (p : ProbeLoops) (e : Event) : ProbeLoops :=
  (p.step e).2

def run (p : ProbeLoops) : List Event → ProbeLoops
  | [] => p
  | e :: rest => run (p.next e) rest

/-- The loops that have come to their end. -/
def endedLoops (p : ProbeLoops) : Nat :=
  p.loops.count .ended

end ProbeLoops
end Sluice
