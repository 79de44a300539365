import Mathlib.Algebra.Ring.Nat
import Sluice.Broadcast

/-! What a subscriber is told of the signals that were sent.

All subscribers share one slot, but each can be looked at alone: what counts for it is how many
signals it still has to be told of (`unseen`). A signal makes them one more, whatever the others do;
what it is answered, and how many are left then, depends on their number only (`answerFor`,
`leftAfter`). So an account can be kept of every subscriber (`due`): the signals since it joined,
less those it received, less those it was told were gone. The account is never overdrawn, and what
comes next can be read off it. -/
namespace Sluice.Broadcast
variable {s t : Broadcast} {j k p u : Nat} {e : Event} {a : Answer}

/-! ### Positions -/

theorem position?_eq_none (h : s.subscribers.length ≤ k) : s.position? k = none := by
  rw [position?, List.getElem?_eq_none h]
  rfl

theorem lt_length (h : s.position? k = some p) : k < s.subscribers.length := by
  refine Nat.lt_of_not_le fun hle => ?_
  rw [position?_eq_none hle] at h
  cases h

theorem position?_set (h : s.position? k = some p) (sent : Nat) (x : Option Nat) (j : Nat) :
    position? ⟨sent, s.subscribers.set k x⟩ j = if j = k then x else s.position? j := by
  by_cases hj : j = k
  · subst hj
    simp [position?, lt_length h]
  · simp [position?, hj, List.getElem?_set_ne (Ne.symm hj)]

theorem position?_append (s : Broadcast) (x : Option Nat) (j : Nat) :
    position? ⟨s.sent, s.subscribers ++ [x]⟩ j =
      if j = s.subscribers.length then x else s.position? j := by
  rcases Nat.lt_trichotomy j s.subscribers.length with hlt | rfl | hgt
  · rw [if_neg (Nat.ne_of_lt hlt), position?, List.getElem?_append_left hlt]
    rfl
  · simp [position?]
  · rw [if_neg (Nat.ne_of_gt hgt), position?_eq_none (Nat.le_of_lt hgt)]
    exact position?_eq_none (by simpa using Nat.succ_le_of_lt hgt)

theorem set_position? (h : s.position? k = some p) :
    s.subscribers.set k (some p) = s.subscribers := by
  obtain ⟨hk, hget⟩ := List.getElem?_eq_some_iff.mp (Option.join_eq_some_iff.mp h)
  rw [← hget]
  exact List.set_getElem_self hk

theorem receivers_ne_zero (h : s.position? k = some p) : s.receivers ≠ 0 := by
  have hmem : some p ∈ s.subscribers := List.mem_of_getElem? (Option.join_eq_some_iff.mp h)
  have hlisten : p ∈ s.subscribers.filterMap id := List.mem_filterMap.mpr ⟨some p, hmem, rfl⟩
  exact fun hzero => List.ne_nil_of_mem hlisten (List.length_eq_zero_iff.mp hzero)

/-- Those who listen are the numbers that have a position. -/
theorem receivers_eq (s : Broadcast) : s.receivers =
    (List.range s.subscribers.length).countP fun k => (s.position? k).isSome := by
  have hlist : (List.range s.subscribers.length).map s.position? = s.subscribers := by
    refine List.ext_getElem (by simp) fun i _ hi => ?_
    simp [position?, hi]
  calc s.receivers
    _ = s.subscribers.countP Option.isSome := List.length_filterMap_eq_countP
    _ = ((List.range s.subscribers.length).map s.position?).countP Option.isSome := by rw [hlist]
    _ = _ := List.countP_map

/-! ### What has not been seen -/

/-- How many signals a live subscriber still has to be told of. -/
def unseen (s : Broadcast) (k : Nat) : Option Nat :=
  (s.position? k).map (s.sent - ·)

/-- What a subscriber is told that has so many to be told of. -/
def answerFor : Option Nat → Answer
  | none => .noSuchSubscriber
  | some 0 => .empty
  | some 1 => .signal
  | some (u + 2) => .lagged (u + 1)

theorem answerFor_eq_empty_iff {u : Nat} : answerFor (some u) = .empty ↔ u = 0 := by
  rcases u with _ | _ | u <;> simp [answerFor]

theorem answerFor_eq_signal_iff {u : Nat} : answerFor (some u) = .signal ↔ u = 1 := by
  rcases u with _ | _ | u <;> simp [answerFor]

theorem answerFor_eq_lagged_iff {u m : Nat} :
    answerFor (some u) = .lagged m ↔ 2 ≤ u ∧ u = m + 1 := by
  rcases u with _ | _ | u
  · simp [answerFor]
  · simp [answerFor]
  · simp only [answerFor, Answer.lagged.injEq]
    omega

theorem answerFor_ne_subscribed (o : Option Nat) (k : Nat) : answerFor o ≠ .subscribed k := by
  unfold answerFor
  split <;> simp

/-- How many are left once it is told. -/
def leftAfter : Nat → Nat
  | 0 => 0
  | 1 => 0
  | _ + 2 => 1

theorem leftAfter_le (u : Nat) : leftAfter u ≤ u := by
  unfold leftAfter
  split <;> omega

theorem leftAfter_of_two_le {u : Nat} (h : 2 ≤ u) : leftAfter u = 1 := by
  obtain ⟨u, rfl⟩ := Nat.exists_eq_add_of_le' h
  rfl

/-- What an event leaves of the signals that subscriber `k` has to be told of. -/
def told (k : Nat) (e : Event) (u : Nat) : Option Nat :=
  match e with
  | .subscribe => some u
  | .trigger => some (u + 1)
  | .receive j => some (if j = k then leftAfter u else u)
  | .unsubscribe j => if j = k then none else some u

/-- No subscriber is ahead of what was sent. -/
def Sound (s : Broadcast) : Prop :=
  ∀ k p, s.position? k = some p → p ≤ s.sent

theorem sound_initial : Sound initial := nofun

/-! ### Moves -/

/-- An event, its answer and the state it leaves. Whoever has seen everything is answered and stays
where it is; so it is told like the others. -/
inductive Move (s : Broadcast) : Event → Answer → Broadcast → Prop where
  | join : Move s .subscribe (.subscribed s.subscribers.length)
      ⟨s.sent, s.subscribers ++ [some s.sent]⟩
  | unheard : s.receivers = 0 → Move s .trigger .triggered s
  | send : s.receivers ≠ 0 → Move s .trigger .triggered ⟨s.sent + 1, s.subscribers⟩
  | tell {k p u : Nat} : s.position? k = some p → s.sent = p + u →
      Move s (.receive k) (answerFor (some u))
        ⟨s.sent, s.subscribers.set k (some (s.sent - leftAfter u))⟩
  | leave {k p : Nat} : s.position? k = some p →
      Move s (.unsubscribe k) .unsubscribed ⟨s.sent, s.subscribers.set k none⟩
  | stranger {e : Event} {k : Nat} : e = .receive k ∨ e = .unsubscribe k → s.position? k = none →
      Move s e .noSuchSubscriber s

theorem Sound.step_move (h : Sound s) (e : Event) : Move s e (s.step e).1 (s.next e) := by
  unfold next
  cases e with
  | subscribe => exact .join
  | trigger =>
    by_cases hnone : s.receivers = 0
    · simp only [step, hnone, if_true]
      exact .unheard hnone
    · simp only [step, hnone, if_false]
      exact .send hnone
  | receive k =>
    cases hk : s.position? k with
    | none =>
      simp only [step, hk]
      exact .stranger (.inl rfl) hk
    | some p =>
      obtain ⟨u, hu⟩ := Nat.exists_eq_add_of_le (h k p hk)
      have htell := Move.tell hk hu
      simp only [step, hk]
      match u with
      | 0 =>
        obtain rfl : s.sent = p := hu
        rw [leftAfter, Nat.sub_zero, set_position? hk] at htell
        rw [if_pos rfl]
        exact htell
      | 1 =>
        rw [if_neg (by omega), if_pos hu.symm]
        exact htell
      | u + 2 =>
        have hmissed : s.sent - 1 - p = u + 1 := by omega
        rw [if_neg (by omega), if_neg (by omega), hmissed]
        exact htell
  | unsubscribe k =>
    cases hk : s.position? k with
    | none =>
      simp only [step, hk]
      exact .stranger (.inr rfl) hk
    | some p =>
      simp only [step, hk]
      exact .leave hk

theorem Move.sound (h : Sound s) (m : Move s e a t) : Sound t := by
  intro j q hq
  cases m with
  | join =>
    rw [position?_append] at hq
    split at hq
    · cases hq
      exact Nat.le_refl _
    · exact h j q hq
  | unheard _ => exact h j q hq
  | send _ => exact Nat.le_succ_of_le (h j q hq)
  | tell hk _ =>
    rw [position?_set hk] at hq
    split at hq
    · cases hq
      exact Nat.sub_le _ _
    · exact h j q hq
  | leave hk =>
    rw [position?_set hk] at hq
    split at hq
    · cases hq
    · exact h j q hq
  | stranger _ _ => exact h j q hq

theorem Move.length_eq (m : Move s e a t) : t.subscribers.length =
    s.subscribers.length + if e = .subscribe then 1 else 0 := by
  cases m with
  | join => simp
  | unheard _ => simp
  | send _ => simp
  | tell _ _ => simp
  | leave _ => simp
  | stranger he _ => rcases he with rfl | rfl <;> simp

/-- What one event does to what a subscriber has to be told of. -/
theorem Move.unseen_eq (h : Sound s) (m : Move s e a t) (j : Nat) : t.unseen j =
    if e = .subscribe ∧ j = s.subscribers.length then some 0
    else (s.unseen j).bind (told j e) := by
  unfold unseen
  cases m with
  | join =>
    rw [position?_append]
    by_cases hj : j = s.subscribers.length
    · simp [hj]
    · cases s.position? j <;> simp [hj, told]
  | unheard hnone =>
    cases hj : s.position? j with
    | none => simp
    | some p => exact absurd hnone (receivers_ne_zero hj)
  | send _ =>
    cases hj : s.position? j with
    | none =>
      have hnone : position? ⟨s.sent + 1, s.subscribers⟩ j = none := hj
      simp [hnone]
    | some p =>
      have hsome : position? ⟨s.sent + 1, s.subscribers⟩ j = some p := hj
      have hle := h j p hj
      have hmore : s.sent + 1 - p = s.sent - p + 1 := by omega
      simp [hsome, told, hmore]
  | @tell k p u hk hu =>
    rw [position?_set hk]
    by_cases hj : j = k
    · subst hj
      have hle := leftAfter_le u
      have hgap : s.sent - p = u := by omega
      have hleft : s.sent - (s.sent - leftAfter u) = leftAfter u := by omega
      simp [hk, told, hgap, hleft]
    · cases hpos : s.position? j <;> simp [hj, Ne.symm hj, told]
  | @leave k p hk =>
    rw [position?_set hk]
    by_cases hj : j = k
    · subst hj
      simp [hk, told]
    · cases hpos : s.position? j <;> simp [hj, Ne.symm hj, told]
  | @stranger _ k he hk =>
    by_cases hj : j = k
    · subst hj
      rcases he with rfl | rfl <;> simp [hk]
    · rcases he with rfl | rfl <;> cases hpos : s.position? j <;> simp [Ne.symm hj, told]

/-! ### The log -/

/-- Every event of a run, with its answer. -/
def log (s : Broadcast) : List Event → List (Event × Answer)
  | [] => []
  | e :: rest => (e, (s.step e).1) :: log (s.next e) rest

theorem log_append (s : Broadcast) (front back : List Event) :
    s.log (front ++ back) = s.log front ++ (s.run front).log back := by
  induction front generalizing s with
  | nil => rfl
  | cons e rest ih => exact congrArg _ (ih _)

variable {log : List (Event × Answer)} {x : Event × Answer}

/-- Who has joined and not left. -/
def Live (k : Nat) (log : List (Event × Answer)) : Prop :=
  (.subscribe, .subscribed k) ∈ log ∧ (.unsubscribe k, .unsubscribed) ∉ log

instance (k : Nat) (log : List (Event × Answer)) : Decidable (Live k log) :=
  inferInstanceAs (Decidable (_ ∧ _))

/-- What came after subscriber `k` joined, the last of it first. -/
def since (k : Nat) (log : List (Event × Answer)) : List (Event × Answer) :=
  log.reverse.takeWhile fun x => x.2 ≠ .subscribed k

/-- How many signals subscriber `k` was told were gone. -/
def missed (k : Nat) : Event × Answer → Nat
  | (.receive j, .lagged m) => if j = k then m else 0
  | _ => 0

/-- The signals since subscriber `k` joined, less those it received and those it was told were
gone. -/
def due (k : Nat) (log : List (Event × Answer)) : Int :=
  (since k log).countP (·.1 = .trigger) - (since k log).count (.receive k, .signal) -
    ((since k log).map (missed k)).sum

theorem missed_other (h : j ≠ k) (a : Answer) : missed k (.receive j, a) = 0 := by
  cases a <;> simp [missed, h]

theorem due_joined (k : Nat) (log : List (Event × Answer)) :
    due k (log ++ [(.subscribe, .subscribed k)]) = 0 := by
  simp [due, since]

theorem due_append (h : x.2 ≠ .subscribed k) : due k (log ++ [x]) = due k log +
    (if x.1 = .trigger then 1 else 0 : Nat) - (if x = (.receive k, .signal) then 1 else 0 : Nat) -
      missed k x := by
  have hsince : since k (log ++ [x]) = x :: since k log := by simp [since, h]
  simp only [due, hsince, List.countP_cons, List.count_cons, List.map_cons, List.sum_cons,
    decide_eq_true_eq, beq_iff_eq]
  omega

/-- What has been logged agrees with where the subscribers stand. -/
structure Accounts (s : Broadcast) (log : List (Event × Answer)) : Prop where
  joined : ∀ k, (.subscribe, .subscribed k) ∈ log ↔ k < s.subscribers.length
  left : ∀ k, (.unsubscribe k, .unsubscribed) ∈ log ↔
    k < s.subscribers.length ∧ s.position? k = none
  due : ∀ k u, s.unseen k = some u → due k log = u

theorem accounts_initial : Accounts initial [] where
  joined := by simp [initial]
  left := by simp [initial]
  due := nofun

/-- The account of a subscriber moves as what it has to be told of. -/
theorem Move.due_eq (m : Move s e a t) {v : Nat} (hu : s.unseen k = some u)
    (hv : told k e u = some v) (hlog : due k log = u) :
    due k (log ++ [(e, a)]) = v := by
  cases m with
  | join =>
    have hother : s.subscribers.length ≠ k := by
      obtain ⟨p, hp, _⟩ := Option.map_eq_some_iff.mp hu
      exact Nat.ne_of_gt (lt_length hp)
    cases hv
    simp [due_append, hother, hlog, missed]
  | unheard _ =>
    cases hv
    simp [due_append, hlog, missed]
  | send _ =>
    cases hv
    simp [due_append, hlog, missed]
  | @tell j p w hj hw =>
    by_cases hjk : j = k
    · subst hjk
      obtain rfl : w = u := by simpa [unseen, hj, hw] using hu
      cases hv
      match w with
      | 0 => simp [due_append, hlog, missed, answerFor, leftAfter]
      | 1 => simp [due_append, hlog, missed, answerFor, leftAfter]
      | w + 2 =>
        have hmissed : missed j (.receive j, .lagged (w + 1)) = w + 1 := if_pos rfl
        simp only [answerFor, leftAfter, ne_eq, reduceCtorEq, not_false_eq_true, due_append, hlog,
          if_true, if_false, Prod.mk.injEq, and_false, hmissed]
        omega
    · obtain rfl : u = v := by simpa [told, hjk] using hv
      rw [due_append (answerFor_ne_subscribed _ _), hlog, missed_other hjk]
      simp [hjk]
  | @leave j p hj =>
    by_cases hjk : j = k
    · simp [told, hjk] at hv
    · obtain rfl : u = v := by simpa [told, hjk] using hv
      simp [due_append, hlog, missed]
  | @stranger _ j he hj =>
    have hjk : j ≠ k := by
      rintro rfl
      simp [unseen, hj] at hu
    obtain rfl : u = v := by rcases he with rfl | rfl <;> simpa [told, hjk] using hv
    rcases he with rfl | rfl <;> simp [due_append, hlog, missed]

theorem Accounts.move (h : Accounts s log) (hs : Sound s) (m : Move s e a t) :
    Accounts t (log ++ [(e, a)]) where
  joined k := by
    rw [m.length_eq, List.mem_append, h.joined]
    cases m with
    | join =>
      rw [if_pos rfl, Nat.lt_succ_iff_lt_or_eq]
      simp
    | unheard _ => simp
    | send _ => simp
    | tell _ _ => simp
    | leave _ => simp
    | stranger he _ => rcases he with rfl | rfl <;> simp
  left k := by
    rw [m.length_eq, List.mem_append, h.left]
    cases m with
    | join =>
      rw [position?_append]
      by_cases hk : k = s.subscribers.length
      · simp [hk]
      · have hlt : k < s.subscribers.length + 1 ↔ k < s.subscribers.length := by omega
        simp [hk, hlt]
    | unheard _ => simp
    | send _ => simp [position?]
    | @tell j p u hj hu =>
      rw [position?_set hj]
      by_cases hk : k = j
      · subst hk
        simp [hj]
      · simp [hk]
    | @leave j p hj =>
      have hlt := lt_length hj
      rw [position?_set hj]
      by_cases hk : k = j
      · subst hk
        simp [hlt]
      · simp [hk]
    | stranger he _ => rcases he with rfl | rfl <;> simp
  due k v hv := by
    rw [m.unseen_eq hs] at hv
    split at hv
    · next hnew =>
      obtain ⟨rfl, rfl⟩ := hnew
      cases hv
      cases m with
      | join => exact due_joined _ _
      | stranger he _ => simp at he
    · obtain ⟨u, hu, hv⟩ := Option.bind_eq_some_iff.mp hv
      exact m.due_eq hu hv (h.due k u hu)

theorem Accounts.live_iff (h : Accounts s log) (k : Nat) :
    Live k log ↔ ∃ u, s.unseen k = some u := by
  rw [Live, h.joined, h.left, not_and]
  cases hk : s.position? k with
  | none => simp [unseen, hk]
  | some p => simp [unseen, hk, lt_length hk]

/-- The accounts are right after every run, each move keeping them so. -/
theorem Accounts.run (h : Accounts s log) (hs : Sound s) (events : List Event) :
    Accounts (s.run events) (log ++ s.log events) := by
  induction events generalizing s log with
  | nil => simpa [Broadcast.run, Broadcast.log] using h
  | cons e rest ih =>
    have m := hs.step_move e
    have hrest := ih (h.move hs m) (m.sound hs)
    rwa [List.append_assoc] at hrest

theorem sound_run (h : Sound s) (events : List Event) : Sound (s.run events) := by
  induction events generalizing s with
  | nil => exact h
  | cons e rest ih => exact ih ((h.step_move e).sound h)

theorem Sound.length_run (h : Sound s) (events : List Event) :
    (s.run events).subscribers.length = s.subscribers.length + events.count .subscribe := by
  induction events generalizing s with
  | nil => rfl
  | cons e rest ih =>
    have m := h.step_move e
    rw [run, ih (m.sound h), m.length_eq, List.count_cons]
    simp only [beq_iff_eq]
    omega

/-! ### Alone -/

/-- Whether subscriber `k` could notice that an event is left out. -/
def concerns (k : Nat) : Event → Bool
  | .subscribe => true
  | .trigger => true
  | .receive j => j = k
  | .unsubscribe j => j = k

/-- The answer to an event that concerns a subscriber, by how many have joined and how many signals
it has to be told of. -/
def reply (joined : Nat) (unseen : Option Nat) : Event → Answer
  | .subscribe => .subscribed joined
  | .trigger => .triggered
  | .receive _ => answerFor unseen
  | .unsubscribe _ => if unseen.isSome then .unsubscribed else .noSuchSubscriber

theorem Move.reply_eq (m : Move s e a t) (h : concerns k e = true) :
    a = reply s.subscribers.length (s.unseen k) e := by
  cases m with
  | join => rfl
  | unheard _ => rfl
  | send _ => rfl
  | @tell j p u hj hu =>
    obtain rfl : j = k := by simpa [concerns] using h
    simp [reply, unseen, hj, hu]
  | @leave j p hj =>
    obtain rfl : j = k := by simpa [concerns] using h
    simp [reply, unseen, hj]
  | @stranger _ j he hj =>
    rcases he with rfl | rfl
    · obtain rfl : j = k := by simpa [concerns] using h
      simp [reply, unseen, hj, answerFor]
    · obtain rfl : j = k := by simpa [concerns] using h
      simp [reply, unseen, hj]

/-- Two states in which subscriber `k` stands alike. -/
structure AlikeFor (k : Nat) (s t : Broadcast) : Prop where
  joined : s.subscribers.length = t.subscribers.length
  unseen : s.unseen k = t.unseen k

/-- What does not concern a subscriber leaves it where it stands. -/
theorem AlikeFor.skip (h : AlikeFor k s t) (hs : Sound s) (he : concerns k e = false) :
    AlikeFor k (s.next e) t := by
  have m := hs.step_move e
  have hnew : e ≠ .subscribe := by
    rintro rfl
    cases he
  have htold : told k e = some := by
    funext u
    cases e <;> simp_all [concerns, told]
  refine ⟨?_, ?_⟩
  · rw [m.length_eq, if_neg hnew, Nat.add_zero, h.joined]
  · rw [m.unseen_eq hs, if_neg (fun hk => hnew hk.1), htold, Option.bind_fun_some, h.unseen]

theorem AlikeFor.next (h : AlikeFor k s t) (hs : Sound s) (ht : Sound t) (e : Event) :
    AlikeFor k (s.next e) (t.next e) := by
  refine ⟨?_, ?_⟩
  · rw [(hs.step_move e).length_eq, (ht.step_move e).length_eq, h.joined]
  · rw [(hs.step_move e).unseen_eq hs, (ht.step_move e).unseen_eq ht, h.joined, h.unseen]

theorem AlikeFor.log_filter (h : AlikeFor k s t) (hs : Sound s) (ht : Sound t)
    (events : List Event) :
    (s.log events).filter (fun x => concerns k x.1) = t.log (events.filter (concerns k)) := by
  induction events generalizing s t with
  | nil => rfl
  | cons e rest ih =>
    have m := hs.step_move e
    rw [log, List.filter_cons, List.filter_cons]
    cases he : concerns k e with
    | false => exact ih (h.skip hs he) (m.sound hs) ht
    | true =>
      have m' := ht.step_move e
      have hanswer : (s.step e).1 = (t.step e).1 := by
        rw [m.reply_eq he, m'.reply_eq he, h.joined, h.unseen]
      show (e, _) :: _ = (e, _) :: _
      rw [hanswer, ih (h.next hs ht e) (m.sound hs) (m'.sound ht)]

/-- **Signals are conserved for each subscriber.** After any events at all, those who listen are
those who have joined and not left, and without them no signal is sent. The account of a live
subscriber is not overdrawn, and says what it is told next: nothing at zero, a signal at one, and
above that how many are gone, which leaves one. All that a subscriber can notice is as it would have
been if no other had ever received or left. -/
theorem signals_conserved (events : List Event) :
    let s := initial.run events
    let log := initial.log events
    s.receivers = (List.range (events.count .subscribe)).countP (Live · log) ∧
    (s.receivers = 0 → s.next .trigger = s) ∧
    ∀ k,
      (Live k log →
        0 ≤ due k log ∧
        ((s.step (.receive k)).1 = .empty ↔ due k log = 0) ∧
        ((s.step (.receive k)).1 = .signal ↔ due k log = 1) ∧
        (∀ m : Nat, (s.step (.receive k)).1 = .lagged m ↔ 2 ≤ due k log ∧ m = due k log - 1) ∧
        (2 ≤ due k log → due k (initial.log (events ++ [.receive k])) = 1)) ∧
      (log.filter fun x => concerns k x.1) = initial.log (events.filter (concerns k)) := by
  intro s log
  have h : Accounts s log := accounts_initial.run sound_initial events
  have hs : Sound s := sound_run sound_initial events
  have hjoined : s.subscribers.length = events.count .subscribe :=
    (sound_initial.length_run events).trans (Nat.zero_add _)
  refine ⟨?_, ?_, fun k => ⟨fun hlive => ?_, ?_⟩⟩
  · rw [receivers_eq, hjoined]
    refine List.countP_congr fun k _ => ?_
    rw [decide_eq_true_eq, h.live_iff, ← Option.isSome_iff_exists, unseen, Option.isSome_map]
  · intro hnone
    simp [next, step, hnone]
  · obtain ⟨u, hu⟩ := (h.live_iff k).mp hlive
    have m := hs.step_move (.receive k)
    have hk : concerns k (.receive k) = true := decide_eq_true rfl
    have hanswer : (s.step (.receive k)).1 = answerFor (some u) := by
      rw [m.reply_eq hk, hu, reply]
    have hafter : due k (initial.log (events ++ [.receive k])) = leftAfter u := by
      rw [log_append]
      exact m.due_eq hu (by simp [told]) (h.due k u hu)
    rw [hanswer, hafter, h.due k u hu, answerFor_eq_empty_iff, answerFor_eq_signal_iff]
    refine ⟨Int.natCast_nonneg u, by omega, by omega, fun m => ?_, fun hmany => ?_⟩
    · rw [answerFor_eq_lagged_iff]
      omega
    · exact congrArg Int.ofNat (leftAfter_of_two_le (by omega))
  · exact AlikeFor.log_filter ⟨rfl, rfl⟩ sound_initial sound_initial events

/-- One subscriber reads the first of three signals and leaves; another, that reads nothing, is told
of two that are gone. -/
theorem signals_conserved_beside_reader :
    let events : List Event := [.trigger, .subscribe, .subscribe, .trigger, .receive 1, .trigger,
      .unsubscribe 1, .trigger, .receive 1]
    let s := initial.run events
    Live 0 (initial.log events) ∧ s.receivers = 1 ∧ (s.step (.receive 0)).1 = .lagged 2 ∧
      due 0 (initial.log (events ++ [.receive 0])) = 1 := by
  intro events s
  obtain ⟨hcount, _, heach⟩ := signals_conserved events
  have hlive : Live 0 (initial.log events) := by decide +kernel
  obtain ⟨_, _, _, hlagged, hafter⟩ := (heach 0).1 hlive
  refine ⟨hlive, hcount.trans (by decide +kernel), (hlagged 2).mpr ?_, hafter ?_⟩
  · decide +kernel
  · decide +kernel

end Sluice.Broadcast
