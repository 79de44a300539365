/-! A signal to all who listen, such as the one to shut down.

One slot holds the latest signal; every subscriber keeps the number of the next signal it has not
seen. Where signals came faster than a subscriber received them, it is told first how many are gone,
and then gets the one in the slot. A signal that nobody listens to is not sent at all. -/
namespace Sluice

/-- How many signals were sent, and for each subscriber by number how many of them lie behind it;
`none` once it has left. -/
structure Broadcast where
  sent : Nat
  subscribers : List (Option Nat)
deriving DecidableEq, Repr

namespace Broadcast

inductive Event where
  | subscribe
  | trigger
  | receive (subscriber : Nat)
  | unsubscribe (subscriber : Nat)
deriving DecidableEq, Repr

inductive Answer where
  | subscribed (number : Nat)
  | triggered
  | signal
  | empty
  | lagged (missed : Nat)
  | unsubscribed
  | noSuchSubscriber
deriving DecidableEq, Repr

def initial : Broadcast :=
  ⟨0, []⟩

/-- Where a live subscriber stands. -/
def position? (s : Broadcast) (k : Nat) : Option Nat :=
  (s.subscribers[k]?).join

/-- How many listen. -/
def receivers (s : Broadcast) : Nat :=
  (s.subscribers.filterMap id).length

def step (s : Broadcast) : Event → Answer × Broadcast
  | .subscribe =>
    (.subscribed s.subscribers.length, { s with subscribers := s.subscribers ++ [some s.sent] })
  | .trigger =>
    if s.receivers = 0 then (.triggered, s) else (.triggered, { s with sent := s.sent + 1 })
  | .receive k =>
    match s.position? k with
    | none => (.noSuchSubscriber, s)
    | some p =>
      if p = s.sent then (.empty, s)
      else if p + 1 = s.sent then
        (.signal, { s with subscribers := s.subscribers.set k (some s.sent) })
      else
        (.lagged (s.sent - 1 - p),
          { s with subscribers := s.subscribers.set k (some (s.sent - 1)) })
  | .unsubscribe k =>
    match s.position? k with
    | none => (.noSuchSubscriber, s)
    | some _ => (.unsubscribed, { s with subscribers := s.subscribers.set k none })

def next (s : Broadcast) (e : Event) : Broadcast :=
  (s.step e).2

def run (s : Broadcast) : List Event → Broadcast
  | [] => s
  | e :: rest => run (s.next e) rest

end Broadcast
end Sluice
