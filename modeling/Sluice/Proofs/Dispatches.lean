import Sluice.Dispatching
import Sluice.Proofs.Judgements
import Sluice.Proofs.Leases
import Sluice.Proofs.Results
import Sluice.Proofs.Sweeps

/-! One dispatch for each request, whatever goes on beside it.

`Turn` lists what an event can do. A request holds the lease that it was given until it ends
(`Sound`), so the outcome that it puts on record goes to the backend of that lease and nowhere else.
What a request does after its arrival is the beginning of a `script` that is fixed but for what the
network answers: it contacts the backend, records on it, answers. -/
namespace Sluice.Dispatching
variable {n : Nat}

/-! ### What an event can do -/

/-- An event, what its request does, and the state it leaves. -/
inductive Turn (d : Dispatching n) : Event n → Option (Act n) → Dispatching n → Prop where
  | turnAway {error} {r : Http.Request} : d.traffic.pool.select = .error error →
      Turn d (.arrive r) (some (.answer (.ofSelectionError error))) (d.enter .ended)
  | lease {l pool} {r : Http.Request} : d.traffic.pool.select = .ok (l, pool) →
      Turn d (.arrive r) none
        ((d.pass .select).enter (.leased d.traffic.leases.length l r))
  | call {i k l r} : d.stage? i = some (.leased k l r) →
      Turn d (.call i) ((d.sent? l r).map (.contact l.backend)) (d.move i (.calling k l r))
  | settle {i k l r net} : d.stage? i = some (.calling k l r) →
      Turn d (.settle i net) (some (.record l.backend (d.judgement net l r).2))
        ((d.pass (.report k (d.judgement net l r).2)).move i
          (.judged k l (d.judgement net l r).1))
  | finish {i k l response} : d.stage? i = some (.judged k l response) →
      Turn d (.finish i) (some (.answer response)) ((d.pass (.release k)).move i .ended)
  | cancel {i k stage} : d.stage? i = some stage → stage.abandons? = some k →
      Turn d (.cancel i) none ((d.pass (.release k)).move i .ended)
  | elsewhere {e h} : Turn d (.elsewhere e h) none (d.pass e)
  | decline {e i} : e.number? = some i → Turn d e none d

theorem step_turn (d : Dispatching n) (e : Event n) : Turn d e (d.step e).1 (d.next e) := by
  unfold next
  cases e with
  | arrive r =>
    cases hs : d.traffic.pool.select with
    | error error =>
      simp only [step, hs]
      exact .turnAway hs
    | ok taken =>
      simp only [step, hs]
      exact .lease hs
  | call i =>
    simp only [step]
    split
    · next h => exact .call h
    · exact .decline rfl
  | settle i net =>
    simp only [step]
    split
    · next h => exact .settle h
    · exact .decline rfl
  | finish i =>
    simp only [step]
    split
    · next h => exact .finish h
    · exact .decline rfl
  | cancel i =>
    simp only [step]
    split
    · next h =>
      obtain ⟨stage, hstage, hk⟩ := Option.bind_eq_some_iff.mp h
      exact .cancel hstage hk
    · exact .decline rfl
  | elsewhere e h => exact .elsewhere

variable {d u : Dispatching n} {e : Event n} {i j k : Nat} {l m : Lease n} {r : Http.Request}
  {a : Option (Act n)} {stage : Stage n}

/-! ### The events of one request -/

theorem step_arrive {pool : Pool n} (hs : d.traffic.pool.select = .ok (l, pool)) :
    d.step (.arrive r) =
      (none, (d.pass .select).enter (.leased d.traffic.leases.length l r)) := by
  simp only [step, hs]

theorem step_refused {error : SelectionError} (hs : d.traffic.pool.select = .error error) :
    d.step (.arrive r) = (some (.answer (.ofSelectionError error)), d.enter .ended) := by
  simp only [step, hs]

theorem step_call (hi : d.stage? i = some (.leased k l r)) :
    d.step (.call i) = ((d.sent? l r).map (.contact l.backend), d.move i (.calling k l r)) := by
  simp only [step, hi]

theorem step_settle (hi : d.stage? i = some (.calling k l r)) (net : Network) :
    d.step (.settle i net) = (some (.record l.backend (d.judgement net l r).2),
      (d.pass (.report k (d.judgement net l r).2)).move i
        (.judged k l (d.judgement net l r).1)) := by
  simp only [step, hi]

theorem step_finish {response : Http.Response} (hi : d.stage? i = some (.judged k l response)) :
    d.step (.finish i) =
      (some (.answer response), (d.pass (.release k)).move i .ended) := by
  simp only [step, hi]

/-! ### Stages and leases -/

theorem stage?_move {new : Stage n} (hi : d.stage? i = some stage) (hu : u.requests = d.requests) :
    (u.move i new).stage? j = if j = i then some new else d.stage? j := by
  have hlength : i < u.requests.length := hu ▸ (List.getElem?_eq_some_iff.mp hi).1
  by_cases hj : j = i
  · subst hj
    rw [if_pos rfl]
    exact List.getElem?_set_self hlength
  · rw [if_neg hj, stage?, stage?, ← hu]
    exact List.getElem?_set_ne (Ne.symm hj)

theorem stage?_moved {new : Stage n} (hi : d.stage? i = some stage)
    (hu : u.requests = d.requests) : (u.move i new).stage? i = some new :=
  (stage?_move hi hu).trans (if_pos rfl)

theorem stage?_enter (d : Dispatching n) (new : Stage n) (j : Nat) :
    (d.enter new).stage? j = if j = d.requests.length then some new else d.stage? j := by
  show (d.requests ++ [new])[j]? = if j = d.requests.length then some new else d.requests[j]?
  by_cases hj : j = d.requests.length
  · subst hj
    rw [if_pos rfl, List.getElem?_concat_length]
  · rw [if_neg hj, List.getElem?_append]
    split
    · rfl
    · rw [List.getElem?_eq_none (by simp; omega), List.getElem?_eq_none (by omega)]

/-- The lease that a request has in this stage, with its number. -/
def Stage.lease? : Stage n → Option (Nat × Lease n)
  | leased k l _ | calling k l _ | judged k l _ => some (k, l)
  | ended => none

theorem Stage.lease?_of_abandons? (h : stage.abandons? = some k) :
    ∃ l, stage.lease? = some (k, l) := by
  cases stage with
  | leased k' l r | calling k' l r =>
    obtain rfl := Option.some.inj h
    exact ⟨l, rfl⟩
  | judged _ _ _ | ended => cases h

def lease? (d : Dispatching n) (i : Nat) : Option (Nat × Lease n) :=
  (d.stage? i).bind Stage.lease?

theorem lease?_eq (h : d.stage? i = some stage) : d.lease? i = stage.lease? := by
  rw [lease?, h]
  rfl

theorem lease?_move {new : Stage n} (hi : d.stage? i = some stage)
    (hu : u.requests = d.requests) :
    (u.move i new).lease? j = if j = i then new.lease? else d.lease? j := by
  rw [lease?, stage?_move hi hu]
  split <;> rfl

theorem lease?_move_same {new : Stage n} (hi : d.stage? i = some stage)
    (hu : u.requests = d.requests) (hsame : new.lease? = stage.lease?) (j : Nat) :
    (u.move i new).lease? j = d.lease? j := by
  rw [lease?_move hi hu]
  split
  · next hj => rw [hj, lease?_eq hi, hsame]
  · rfl

theorem lease?_length (d : Dispatching n) : d.lease? d.requests.length = none := by
  rw [lease?, stage?, List.getElem?_eq_none (Nat.le_refl _)]
  rfl

theorem lease?_enter (d : Dispatching n) (new : Stage n) (j : Nat) :
    (d.enter new).lease? j = if j = d.requests.length then new.lease? else d.lease? j := by
  rw [lease?, stage?_enter]
  split <;> rfl

/-- The lease that a request has is out under its number, and no other request has that number. -/
structure Sound (d : Dispatching n) : Prop where
  out : ∀ {i k l}, d.lease? i = some (k, l) → d.traffic.lease? k = some l
  apart : ∀ {i j k l m}, d.lease? i = some (k, l) → d.lease? j = some (k, m) → i = j

theorem sound_ofPool (backends : Vector Url n) (limits : Call.Limits) (p : Pool n) :
    Sound (ofPool backends limits p) where
  out h := by cases h
  apart h := by cases h

theorem Sound.keep (h : Sound d) (hrequests : ∀ j, u.lease? j = d.lease? j)
    (htraffic : ∀ {k l}, d.traffic.lease? k = some l → u.traffic.lease? k = some l) : Sound u where
  out hl := htraffic (h.out (hrequests _ ▸ hl))
  apart hl hm := h.apart (hrequests _ ▸ hl) (hrequests _ ▸ hm)

/-- A request that ends takes its own lease along. -/
theorem Sound.give_up (h : Sound d) (hi : d.stage? i = some stage)
    (hl : stage.lease? = some (k, l)) : Sound ((d.pass (.release k)).move i .ended) := by
  have hmove : ∀ j, ((d.pass (.release k)).move i .ended).lease? j =
      if j = i then none else d.lease? j := fun j => lease?_move hi rfl
  have hkept : ∀ {j k' m}, ((d.pass (.release k)).move i .ended).lease? j = some (k', m) →
      j ≠ i ∧ d.lease? j = some (k', m) := by
    intro j k' m hm
    rw [hmove] at hm
    split at hm
    · cases hm
    · next hj => exact ⟨hj, hm⟩
  refine ⟨fun hm => ?_, fun hm hm' => h.apart (hkept hm).2 (hkept hm').2⟩
  obtain ⟨hj, hm⟩ := hkept hm
  refine Traffic.lease?_next (h.out hm) fun heq => hj ?_
  obtain rfl := Traffic.Event.release.inj heq
  exact h.apart hm ((lease?_eq hi).trans hl)

/-- A request that arrives gets a lease with a number of its own. -/
theorem Sound.take (h : Sound d) {pool : Pool n} (hs : d.traffic.pool.select = .ok (l, pool))
    (r : Http.Request) :
    Sound ((d.pass .select).enter (.leased d.traffic.leases.length l r)) := by
  have hlease := lease?_enter (d.pass .select) (.leased d.traffic.leases.length l r)
  have hnew : ∀ {i m}, d.lease? i ≠ some (d.traffic.leases.length, m) := fun hm =>
    absurd (Traffic.lt_length_of_join (h.out hm)) (Nat.lt_irrefl _)
  refine ⟨?_, ?_⟩
  · intro i k m hm
    rw [hlease] at hm
    split at hm
    · cases hm
      exact Traffic.lease?_given hs
    · exact Traffic.lease?_next (h.out hm) nofun
  · intro i j k m m' hm hm'
    rw [hlease] at hm hm'
    split at hm <;> split at hm'
    · next hi hj => rw [hi, hj]
    · cases hm
      exact absurd hm' hnew
    · cases hm'
      exact absurd hm hnew
    · exact h.apart hm hm'

theorem Sound.turn (h : Sound d) (t : Turn d e a u) : Sound u := by
  cases t with
  | turnAway _ =>
    refine h.keep (fun j => ?_) id
    rw [lease?_enter]
    split
    · next hj => rw [hj, lease?_length, Stage.lease?]
    · rfl
  | @lease l pool r hs => exact h.take hs r
  | call hi => exact h.keep (lease?_move_same hi rfl rfl) id
  | settle hi =>
    exact h.keep (lease?_move_same hi rfl rfl) fun hl => Traffic.lease?_next hl nofun
  | finish hi => exact h.give_up hi rfl
  | cancel hi hk =>
    obtain ⟨l, hl⟩ := Stage.lease?_of_abandons? hk
    exact h.give_up hi hl
  | @elsewhere e he =>
    refine h.keep (fun _ => rfl) fun hl => Traffic.lease?_next hl ?_
    rintro rfl
    cases he
  | decline _ => exact h

theorem Sound.run (h : Sound d) (events : List (Event n)) : Sound (d.run events) := by
  induction events generalizing d with
  | nil => exact h
  | cons e rest ih => exact ih (h.turn (step_turn d e))

/-! ### What a request puts on record -/

/-- The standings after an act. -/
def recorded (s : Standings n) : Option (Act n) → Standings n
  | some (.record b o) => s.record b o
  | _ => s

/-- Requests change standings by what they put on record, and in no other way. -/
theorem Sound.standings_turn (h : Sound d) (t : Turn d e a u)
    (he : ∀ e' h', e ≠ .elsewhere e' h') :
    u.traffic.pool.standings = recorded d.traffic.pool.standings a := by
  cases t with
  | turnAway _ => rfl
  | lease _ => exact Traffic.standings_next d.traffic .select
  | @call i k l r _ => cases hsent : d.sent? l r <;> rfl
  | settle hi =>
    refine (Traffic.standings_next d.traffic _).trans ?_
    rw [Traffic.recording_report (h.out (lease?_eq hi))]
    rfl
  | finish _ | cancel _ _ => exact Traffic.standings_next d.traffic (.release _)
  | elsewhere => exact absurd rfl (he _ _)
  | decline _ => rfl

/-! ### What a request does -/

/-- All that is left to do for a request in this stage, if the network is like this. -/
def script (d : Dispatching n) (net : Network) : Stage n → List (Act n)
  | .leased _ l r => ((d.sent? l r).map (.contact l.backend)).toList ++
    [.record l.backend (d.judgement net l r).2, .answer (d.judgement net l r).1]
  | .calling _ l r => [.record l.backend (d.judgement net l r).2, .answer (d.judgement net l r).1]
  | .judged _ _ response => [.answer response]
  | .ended => []

/-- The outcome is on record, and only the answer is left to be given. -/
def Stage.settled : Stage n → Bool
  | judged _ _ _ => true
  | _ => false

theorem Turn.fixed (t : Turn d e a u) : u.backends = d.backends ∧ u.limits = d.limits := by
  cases t <;> exact ⟨rfl, rfl⟩

theorem run_backends (d : Dispatching n) (events : List (Event n)) :
    (d.run events).backends = d.backends := by
  induction events generalizing d with
  | nil => rfl
  | cons e rest ih => exact (ih (d.next e)).trans (step_turn d e).fixed.1

theorem Turn.script_eq (t : Turn d e a u) : u.script = d.script := by
  funext net stage
  cases stage <;> simp only [script, sent?, judgement, t.fixed.1, t.fixed.2]

theorem Turn.other (t : Turn d e a u) (he : e.number? ≠ some i) (hi : d.stage? i = some stage) :
    u.stage? i = some stage := by
  have hother : ∀ {j old new} {v : Dispatching n}, v.requests = d.requests →
      d.stage? j = some old → some j ≠ some i → (v.move j new).stage? i = some stage := by
    intro j old new v hv hj hne
    rw [stage?_move hj hv, if_neg fun heq => hne (congrArg some heq.symm)]
    exact hi
  have hlength : i ≠ d.requests.length :=
    Nat.ne_of_lt (List.getElem?_eq_some_iff.mp hi).1
  cases t with
  | turnAway _ | lease _ => exact (stage?_enter _ _ i).trans ((if_neg hlength).trans hi)
  | call hj | settle hj | finish hj | cancel hj _ => exact hother rfl hj he
  | elsewhere | decline _ => exact hi

theorem Turn.own (t : Turn d e a u) (he : e.number? = some i) (hi : d.stage? i = some stage) :
    ∃ new, u.stage? i = some new ∧
      (∀ net, ∃ net', a.toList ++ d.script net new <+: d.script net' stage) ∧
      (stage.settled = false → new.settled = false ∨ ∃ b o, a = some (.record b o)) := by
  have hmoved : ∀ {old new} {v : Dispatching n}, v.requests = d.requests →
      d.stage? i = some old → stage = old ∧ (v.move i new).stage? i = some new := by
    intro old new v hv hold
    exact ⟨Option.some.inj (hi.symm.trans hold), stage?_moved hold hv⟩
  cases t with
  | turnAway _ | lease _ | elsewhere => cases he
  | call hj =>
    obtain rfl := Option.some.inj he
    obtain ⟨rfl, hnew⟩ := hmoved rfl hj
    exact ⟨_, hnew, fun net => ⟨net, List.prefix_rfl⟩, .inl⟩
  | @settle _ k l r net hj =>
    obtain rfl := Option.some.inj he
    obtain ⟨rfl, hnew⟩ := hmoved rfl hj
    exact ⟨_, hnew, fun _ => ⟨net, List.prefix_rfl⟩, fun _ => .inr ⟨_, _, rfl⟩⟩
  | finish hj =>
    obtain rfl := Option.some.inj he
    obtain ⟨rfl, hnew⟩ := hmoved rfl hj
    exact ⟨_, hnew, fun net => ⟨net, List.prefix_rfl⟩, fun _ => .inl rfl⟩
  | cancel hj _ =>
    obtain rfl := Option.some.inj he
    obtain ⟨rfl, hnew⟩ := hmoved rfl hj
    exact ⟨_, hnew, fun net => ⟨net, List.nil_prefix⟩, fun _ => .inl rfl⟩
  | decline _ => exact ⟨stage, hi, fun net => ⟨net, List.prefix_rfl⟩, .inl⟩

/-- Whatever else goes on, a request does the beginning of its script. -/
theorem actsOf_prefix (hi : d.stage? i = some stage) (events : List (Event n)) :
    ∃ net, d.actsOf i events <+: d.script net stage := by
  induction events generalizing d stage with
  | nil => exact ⟨.isolated, List.nil_prefix⟩
  | cons e rest ih =>
    have t := step_turn d e
    rw [actsOf]
    by_cases he : e.number? = some i
    · obtain ⟨new, hnew, hscript, _⟩ := t.own he hi
      obtain ⟨net, hrest⟩ := ih hnew
      obtain ⟨net', hall⟩ := hscript net
      rw [t.script_eq] at hrest
      rw [if_pos he]
      exact ⟨net', ((List.prefix_append_right_inj _).mpr hrest).trans hall⟩
    · obtain ⟨net, hrest⟩ := ih (t.other he hi)
      rw [t.script_eq] at hrest
      rw [if_neg he]
      exact ⟨net, hrest⟩

theorem actsOf_ended (hi : d.stage? i = some .ended) (events : List (Event n)) :
    d.actsOf i events = [] := by
  obtain ⟨_, h⟩ := actsOf_prefix hi events
  exact List.prefix_nil.mp h

theorem actsOf_append (d : Dispatching n) (i : Nat) (a b : List (Event n)) :
    d.actsOf i (a ++ b) = d.actsOf i a ++ (d.run a).actsOf i b := by
  induction a generalizing d with
  | nil => rfl
  | cons e rest ih =>
    show (if _ then _ else _) ++ (d.next e).actsOf i (rest ++ b) = _
    rw [ih, ← List.append_assoc]
    rfl

/-! ### A request that goes its way -/

/-- The events that take a request from this stage to its end. -/
def Stage.course (i : Nat) (net : Network) : Stage n → List (Event n)
  | leased _ _ _ => [.call i, .settle i net, .finish i]
  | calling _ _ _ => [.settle i net, .finish i]
  | judged _ _ _ => [.finish i]
  | ended => []

theorem step_course {net : Network} {rest : List (Event n)} (hi : d.stage? i = some stage)
    (h : stage.course i net = e :: rest) :
    ∃ new, (d.next e).stage? i = some new ∧ new.course i net = rest ∧
      (d.step e).1.toList ++ d.script net new = d.script net stage := by
  cases stage with
  | leased k l r =>
    obtain ⟨rfl, rfl⟩ := List.cons.inj h
    rw [next, step_call hi]
    exact ⟨_, stage?_moved hi rfl, rfl, rfl⟩
  | calling k l r =>
    obtain ⟨rfl, rfl⟩ := List.cons.inj h
    rw [next, step_settle hi]
    exact ⟨_, stage?_moved hi rfl, rfl, rfl⟩
  | judged k l response =>
    obtain ⟨rfl, rfl⟩ := List.cons.inj h
    rw [next, step_finish hi]
    exact ⟨_, stage?_moved hi rfl, rfl, rfl⟩
  | ended => cases h

/-- Those events, in their order, and any others beside them: then it does all of its script. -/
theorem actsOf_course {net : Network} (hi : d.stage? i = some stage) (events : List (Event n))
    (h : events.filter (fun e => e.number? = some i) = stage.course i net) :
    d.actsOf i events = d.script net stage := by
  induction events generalizing d stage with
  | nil =>
    cases stage with
    | ended => rfl
    | leased _ _ _ | calling _ _ _ | judged _ _ _ => cases h
  | cons e rest ih =>
    rw [actsOf]
    by_cases he : e.number? = some i
    · rw [List.filter_cons_of_pos (by simpa using he)] at h
      obtain ⟨new, hnew, hcourse, hscript⟩ := step_course hi h.symm
      rw [if_pos he, ih hnew hcourse.symm, (step_turn d e).script_eq, hscript]
    · rw [List.filter_cons_of_neg (by simpa using he)] at h
      rw [if_neg he, ih ((step_turn d e).other he hi) h, (step_turn d e).script_eq]
      rfl

/-! ### A request whose client goes away -/

theorem stage_run (hi : d.stage? i = some stage) (events : List (Event n)) :
    ∃ new, (d.run events).stage? i = some new := by
  induction events generalizing d stage with
  | nil => exact ⟨stage, hi⟩
  | cons e rest ih =>
    by_cases he : e.number? = some i
    · obtain ⟨new, hnew, _⟩ := (step_turn d e).own he hi
      exact ih hnew
    · exact ih ((step_turn d e).other he hi)

/-- A request whose outcome is settled has put it on record. -/
theorem settled_run (hi : d.stage? i = some stage) (hs : stage.settled = false)
    (events : List (Event n)) {new : Stage n} (hnew : (d.run events).stage? i = some new) :
    new.settled = false ∨ ∃ b o, .record b o ∈ d.actsOf i events := by
  induction events generalizing d stage with
  | nil =>
    obtain rfl := Option.some.inj (hi.symm.trans hnew)
    exact .inl hs
  | cons e rest ih =>
    have t := step_turn d e
    rw [actsOf]
    by_cases he : e.number? = some i
    · obtain ⟨new, hnext, _, hsettled⟩ := t.own he hi
      rw [if_pos he]
      rcases hsettled hs with hopen | ⟨b, o, hrecord⟩
      · obtain h | ⟨b, o, hb⟩ := ih hnext hopen hnew
        · exact .inl h
        · exact .inr ⟨b, o, List.mem_append_right _ hb⟩
      · refine .inr ⟨b, o, List.mem_append_left _ ?_⟩
        rw [hrecord]
        exact List.mem_singleton.mpr rfl
    · rw [if_neg he]
      exact ih (t.other he hi) hs hnew

/-- A client that goes away before the outcome is on record ends its request as it is. -/
theorem actsOf_cancel (hi : d.stage? i = some stage) (hs : stage.settled = false)
    (early late : List (Event n)) (h : ∀ b o, .record b o ∉ d.actsOf i early) :
    d.actsOf i (early ++ .cancel i :: late) = d.actsOf i early := by
  obtain ⟨new, hnew⟩ := stage_run hi early
  have hopen : new.settled = false :=
    (settled_run hi hs early hnew).resolve_right fun ⟨b, o, hb⟩ => h b o hb
  have hcancel : ((d.run early).step (.cancel i)).1 = none ∧
      ((d.run early).next (.cancel i)).stage? i = some .ended := by
    cases new with
    | leased k l r | calling k l r =>
      simp only [next, step, hnew, Option.bind_some, Stage.abandons?, true_and]
      exact stage?_moved hnew rfl
    | judged k l response => cases hopen
    | ended => simp [next, step, hnew, Stage.abandons?]
  rw [actsOf_append, actsOf, actsOf_ended hcancel.2, hcancel.1]
  simp

/-! ### The whole request -/

theorem judgement_of_forward {net : Network} {result : Except Call.Error Http.Response}
    {latency : Duration}
    (h : Call.forward d.limits net (d.backends.get l.backend) r = (result, latency)) :
    d.judgement net l r = ((Balancer.judge result).1, ⟨(Balancer.judge result).2, latency⟩) := by
  simp only [judgement, h]

theorem judgement_eq (d : Dispatching n) (net : Network) (l : Lease n) (r : Http.Request) :
    let ending := Call.ending net (Call.forwardRequest (d.backends.get l.backend) r)
    (d.judgement net l r).1 = ending.verdict.1 ∧
      (d.judgement net l r).2.health = ending.verdict.2 := by
  intro ending
  rw [← Call.judge_forward d.limits]
  exact ⟨rfl, rfl⟩

/-- What a request comes to that nothing interrupts is what the balancer does for it. -/
theorem dispatch_alone (d : Dispatching n) (net : Network) (r : Http.Request) (path : String) :
    let b : Balancer n := ⟨d.backends, d.limits, path, d.traffic.pool⟩
    let i := d.requests.length
    let u := d.run [.arrive r, .call i, .settle i net]
    ((d.step (.arrive r)).1 <|> (u.step (.finish i)).1) = some (.answer (b.dispatch net r).1) ∧
      (u.next (.finish i)).traffic.pool = (b.dispatch net r).2.pool := by
  intro b i u
  cases hs : d.traffic.pool.select with
  | error error =>
    have hlast : (d.enter .ended).stage? i = some .ended := (stage?_enter _ _ i).trans (if_pos rfl)
    have hend : u = d.enter .ended := by
      simp only [u, run, next, step, hs, hlast]
    have hdispatch : b.dispatch net r = (.ofSelectionError error, b) := by
      simp only [Balancer.dispatch, Balancer.lease, b, hs]
      rfl
    rw [hdispatch, hend]
    simp only [step, next, hs, hlast]
    exact ⟨rfl, rfl⟩
  | ok taken =>
    obtain ⟨l, pool⟩ := taken
    let k := d.traffic.leases.length
    let d₁ := (d.pass .select).enter (.leased k l r)
    let d₂ := d₁.move i (.calling k l r)
    let o := (d.judgement net l r).2
    have h₁ : d₁.stage? i = some (.leased k l r) := (stage?_enter _ _ i).trans (if_pos rfl)
    have h₂ : d₂.stage? i = some (.calling k l r) := stage?_moved h₁ rfl
    have hu : u = (d₂.pass (.report k o)).move i (.judged k l (d.judgement net l r).1) := by
      show ((d.next (.arrive r)).next (.call i)).next (.settle i net) = _
      rw [next, next, next, step_arrive hs, step_call h₁, step_settle h₂]
      rfl
    have h₃ : u.stage? i = some (.judged k l (d.judgement net l r).1) := by
      rw [hu]
      exact stage?_moved h₂ rfl
    have hout : (d₂.pass (.report k o)).traffic.lease? k = some l :=
      Traffic.lease?_next (Traffic.lease?_given hs) nofun
    have hpool : (d₂.pass (.report k o)).traffic.pool = pool.record l.backend o := by
      show ((d.traffic.next .select).next (.report k o)).pool = _
      rw [Traffic.next_report (Traffic.lease?_given hs), Traffic.next_select hs]
    have hdispatch : b.dispatch net r = ((d.judgement net l r).1,
        ⟨d.backends, d.limits, path, (pool.record l.backend o).release l⟩) := by
      simp only [Balancer.dispatch, Balancer.lease, b, hs]
      rfl
    rw [hdispatch, next, step_finish h₃, step_arrive hs]
    refine ⟨rfl, ?_⟩
    show (u.traffic.next (.release k)).pool = _
    rw [hu]
    show ((d₂.pass (.report k o)).traffic.next (.release k)).pool = _
    rw [Traffic.next_release hout, hpool]

/-- **One dispatch for each request**, whatever has happened before and whatever goes on beside it.
A request that gets no lease is answered with the reason and leaves everything as it was. Any other
does the beginning of one script: it contacts the backend of its lease with the request made for
that backend, if one can be made, puts an outcome on record for it, answers. It does all of it if
its own events come in their order, and nothing more once its client has gone before the recording.
Requests change standings by what they put on record alone. The outcome is healthy exactly if a
response to what was sent has come with a status in 200..=206, and then the answer has its status
and body; else the answer is the balancer's own. A probe whose exchange ended in the same way
records the same health. -/
theorem dispatched_once (strategy : Strategy) (s : Standings n) (backends : Vector Url n)
    (limits : Call.Limits) (before : List (Event n)) (r : Http.Request) :
    let d := (ofPool backends limits (.ofStandings strategy s)).run before
    let i := d.requests.length
    let u := d.next (.arrive r)
    let made (l : Lease n) := Call.forwardRequest (backends.get l.backend) r
    (∀ error, d.traffic.pool.select = .error error →
      (d.step (.arrive r)).1 = some (.answer (.ofSelectionError error)) ∧
        (Http.Response.ofSelectionError error).status.code = 503 ∧
        u.traffic = d.traffic ∧ ∀ later, u.actsOf i later = []) ∧
    (∀ l pool, d.traffic.pool.select = .ok (l, pool) →
      let script (net : Network) : List (Act n) :=
        ((made l).toOption.map (.contact l.backend)).toList ++
          [.record l.backend (u.judgement net l r).2, .answer (u.judgement net l r).1]
      (d.step (.arrive r)).1 = none ∧
        (∀ later, ∃ net, u.actsOf i later <+: script net) ∧
        (∀ later net, later.filter (fun e => e.number? = some i) =
          [.call i, .settle i net, .finish i] → u.actsOf i later = script net) ∧
        ∀ early late, (∀ b o, .record b o ∉ u.actsOf i early) →
          u.actsOf i (early ++ .cancel i :: late) = u.actsOf i early) ∧
    (∀ later e, (∀ e' h', e ≠ .elsewhere e' h') →
      let v := d.run later
      (v.next e).traffic.pool.standings = recorded v.traffic.pool.standings (v.step e).1) ∧
    ∀ l net,
      let ending := Call.ending net (made l)
      ((u.judgement net l r).2.health = .healthy ↔ ∃ head, ending.Success head) ∧
      (∀ head, ending.Success head →
        (u.judgement net l r).1.status = head.status ∧
          (u.judgement net l r).1.body = head.body) ∧
      ((¬ ∃ head, ending.Success head) →
        (u.judgement net l r).1 = .unavailable ∧ Http.Response.unavailable.status.code = 503) ∧
      ∀ limits' net' base path, Call.ending net' (Call.probeRequest base path) = ending →
        Balancer.judgeProbe (Call.probe limits' net' base path).1 =
          (u.judgement net l r).2.health := by
  intro d i u made
  have hsound : Sound d := (sound_ofPool backends limits _).run before
  have hbackends : u.backends = backends :=
    (step_turn d (.arrive r)).fixed.1.trans (run_backends _ before)
  refine ⟨?_, ?_, ?_, ?_⟩
  · intro error hs
    have hu : u = d.enter .ended := congrArg Prod.snd (step_refused hs)
    have hend : u.stage? i = some .ended := by
      rw [hu]
      exact (stage?_enter _ _ i).trans (if_pos rfl)
    exact ⟨congrArg Prod.fst (step_refused hs), rfl, by rw [hu]; rfl, actsOf_ended hend⟩
  · intro l pool hs script
    have hu : u = (d.pass .select).enter (.leased d.traffic.leases.length l r) :=
      congrArg Prod.snd (step_arrive hs)
    have hstart : u.stage? i = some (.leased d.traffic.leases.length l r) := by
      rw [hu]
      exact (stage?_enter _ _ i).trans (if_pos rfl)
    have hscript : ∀ net, u.script net (.leased d.traffic.leases.length l r) = script net := by
      intro net
      simp only [Dispatching.script, sent?, hbackends, script, made]
    refine ⟨congrArg Prod.fst (step_arrive hs), ?_, ?_, actsOf_cancel hstart rfl⟩
    · intro later
      obtain ⟨net, hprefix⟩ := actsOf_prefix hstart later
      exact ⟨net, hscript net ▸ hprefix⟩
    · intro later net h
      exact (actsOf_course hstart later h).trans (hscript net)
  · intro later e he v
    exact (hsound.run later).standings_turn (step_turn v e) he
  · intro l net ending
    obtain ⟨hanswer, hhealth⟩ := judgement_eq u net l r
    rw [hbackends] at hanswer hhealth
    rw [hanswer, hhealth]
    refine ⟨Call.Ending.verdict_healthy_iff, fun head h => ?_, fun h => ?_, ?_⟩
    · rw [h.verdict]
      exact ⟨rfl, rfl⟩
    · rw [Call.Ending.verdict_failure h]
      exact ⟨rfl, rfl⟩
    · intro limits' net' base path hsame
      rw [Call.judgeProbe_probe, hsame]

/-- Another request comes and goes and a sweep begins while the first one is under way. It ends
early where its client goes away. A third request finds both backends out. -/
theorem dispatched_once_beside_others :
    let place port : Url :=
      ⟨"http", some ⟨"", none, some (.v6 .loopback), some port⟩, "/", none, none⟩
    let places : Vector Url 2 := #v[place 8081, place 8082]
    let net : Network := ⟨fun _ => ⟨.ok ⟨.ok, .empty, .text "done"⟩, ⟨1500⟩⟩, fun _ => .ok (), true⟩
    let r : Http.Request := ⟨.get, ⟨none, none, ⟨"/a"⟩⟩, .http11, .empty, .empty⟩
    let start : Dispatching 2 :=
      ofPool places ⟨⟨1000⟩, ⟨1000⟩⟩ (.ofStandings .leastResponse (.fresh 2))
    let u := start.next (.arrive r)
    let v := u.next (.arrive r)
    let later : List (Event 2) := [.call 0, .arrive r, .call 1, .elsewhere .sweepBegin rfl,
      .settle 0 net, .cancel 1, .finish 0]
    (∃ sent, Call.forwardRequest (place 8081) r = .ok sent ∧ u.actsOf 0 later =
        [.contact 0 sent, .record 0 ⟨.healthy, ⟨1500⟩⟩, .answer ⟨.ok, .empty, .text "done"⟩]) ∧
      (u.judgement net (.checkedOut 0) r).2.health = .healthy ∧
      u.actsOf 0 ([.call 0] ++ .cancel 0 :: [.settle 0 net]) = u.actsOf 0 [.call 0] ∧
      ∃ error, (v.step (.arrive r)).1 = some (.answer (.ofSelectionError error)) := by
  intro place places net r start u v later
  have htaken : start.traffic.pool.select.toOption.map Prod.fst = some (.checkedOut 0) := by
    decide +kernel
  have hrefused : v.traffic.pool.select.isOk = false := by decide +kernel
  have honce := dispatched_once .leastResponse (.fresh 2) places ⟨⟨1000⟩, ⟨1000⟩⟩
  obtain ⟨_, hfirst, _, hjudged⟩ := honce [] r
  obtain ⟨hthird, _, _, _⟩ := honce [.arrive r, .arrive r] r
  obtain ⟨⟨_, pool⟩, hs, rfl⟩ := Results.toOption_map_eq_some.mp htaken
  obtain ⟨error, he⟩ := Results.isOk_eq_false_iff.mp hrefused
  obtain ⟨_, _, hcourse, hcancel⟩ := hfirst _ _ hs
  obtain ⟨hanswer, _⟩ := hthird error he
  have hmade : (Call.forwardRequest (place 8081) r).isOk = true := by decide +kernel
  obtain ⟨sent, hsent⟩ := Results.isOk_iff.mp hmade
  have hu : u = _ := congrArg Prod.snd (step_arrive hs)
  have hjudgement : u.judgement net (.checkedOut 0) r =
      (⟨.ok, .empty, .text "done"⟩, ⟨.healthy, ⟨1500⟩⟩) := by
    obtain ⟨hbackends, hlimits⟩ := (step_turn start (.arrive r)).fixed
    have hforward : Call.forward u.limits net (u.backends.get 0) r =
        (.ok ⟨.ok, .empty, .text "done"⟩, ⟨1500⟩) := by
      rw [hbackends, hlimits]
      show Call.forward ⟨⟨1000⟩, ⟨1000⟩⟩ net (place 8081) r = _
      rw [Call.forward, hsent]
      rfl
    exact judgement_of_forward (l := .checkedOut 0) hforward
  have hending : (Call.ending net (Call.forwardRequest (place 8081) r)).Success
      ⟨.ok, .empty, .text "done"⟩ := by
    rw [hsent]
    exact ⟨rfl, by decide⟩
  have hcontact : ((Call.forwardRequest (place 8081) r).toOption.map (Act.contact 0)).toList =
      ([.contact 0 sent] : List (Act 2)) := by
    rw [hsent]
    rfl
  have hall : u.actsOf 0 later =
      ((Call.forwardRequest (place 8081) r).toOption.map (Act.contact 0)).toList ++
        [.record 0 (u.judgement net (.checkedOut 0) r).2,
          .answer (u.judgement net (.checkedOut 0) r).1] := hcourse later net rfl
  rw [hcontact, hjudgement] at hall
  refine ⟨⟨sent, hsent, hall⟩, (hjudged _ net).1.mpr ⟨_, hending⟩, ?_, error, hanswer⟩
  refine hcancel [.call 0] [.settle 0 net] fun b o hmem => ?_
  have hcall : u.actsOf 0 [.call 0] = [.contact 0 sent] := by
    rw [hu, actsOf, step_call ((stage?_enter _ _ 0).trans (if_pos rfl))]
    show ((Call.forwardRequest (place 8081) r).toOption.map (Act.contact 0)).toList ++ [] = _
    rw [hcontact]
    rfl
  cases List.mem_singleton.mp (hcall ▸ hmem : Act.record b o ∈ [.contact 0 sent])

end Sluice.Dispatching
