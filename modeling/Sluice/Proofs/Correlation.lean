import Sluice.Router
import Sluice.Proofs.ConnectionFields
import Sluice.Proofs.Judgements

/-! One id for a request, for the backend that gets it and for the answer.

A request has its id before anything else is done with it: the first that its client gave it, or the
fresh one. That id goes to the backend with the other fields, and on the way out it is put on the
answer, unless there is one already. The balancer's own answers carry none. The answer of a backend
may, since nothing takes it off; then the client gets that, and the id of its request is lost. -/
namespace Sluice

namespace Http

theorem Headers.contains_eq_isSome (h : Headers) (name : FieldName) :
    h.contains name = (h.get? name).isSome := by
  obtain ⟨fields⟩ := h
  show fields.any _ = (List.filterMap _ fields).head?.isSome
  induction fields with
  | nil => rfl
  | cons f rest ih =>
    by_cases hf : f.name = name
    · simp [hf]
    · simpa [hf] using ih

theorem Headers.get?_insert (h : Headers) (name : FieldName) (value : String) :
    (h.insert name value).get? name = some value := by
  simp [insert, get?]

namespace RequestId
variable {fresh id : String} {r : Request}

/-- The id that a request has in the server. -/
def idOf (fresh : String) (r : Request) : String :=
  (r.headers.get? .xRequestId).getD fresh

theorem get?_assign (fresh : String) (r : Request) :
    (assign fresh r).headers.get? .xRequestId = some (idOf fresh r) := by
  rw [assign, idOf, Headers.contains_eq_isSome]
  cases hid : r.headers.get? .xRequestId with
  | none => exact Headers.get?_insert r.headers .xRequestId fresh
  | some own => exact hid

theorem get?_propagate (id : String) (response : Response) :
    (propagate (some id) response).headers.get? .xRequestId =
      some ((response.headers.get? .xRequestId).getD id) := by
  simp only [propagate, Headers.contains_eq_isSome]
  cases hid : response.headers.get? .xRequestId with
  | none => exact Headers.get?_insert response.headers .xRequestId id
  | some own => exact hid

end RequestId

/-- Only the length of the body is added. -/
theorem Response.get?_announceLength (response : Response) {name : FieldName}
    (hname : name ≠ .contentLength) :
    response.announceLength.headers.get? name = response.headers.get? name := by
  unfold announceLength
  split
  · simp [Headers.get?, Ne.symm hname]
  · rfl

theorem HopByHop.get?_strip (h : Headers) {name : FieldName} (hname : name ∉ names) :
    (strip h).get? name = h.get? name := by
  rw [Headers.get?, values_strip, if_neg hname, Headers.get?]

end Http

namespace Router
open Http (FieldName)
open Http.RequestId

variable {n : Nat} {b b' : Balancer n} {fresh id : String} {r : Http.Request} {u : Underway n}
  {response : Http.Response}

/-! ### On the way in -/

/-- Who is turned away is answered under the id of the request. -/
theorem accept_answered (h : accept b fresh r = (.answered response, b')) :
    ∃ own, response = finish (assign fresh r) own ∧ own.headers.get? .xRequestId = none := by
  simp only [accept] at h
  split at h
  · split at h
    · cases h
    · cases h
      exact ⟨_, rfl, rfl⟩
  · cases h
    exact ⟨_, rfl, rfl⟩

theorem accept_underway (h : accept b fresh r = (.underway u, b')) :
    u.request = assign fresh r := by
  simp only [accept] at h
  split at h
  · split at h <;> cases h
    rfl
  · cases h

/-! ### On the way out -/

theorem get?_trim (request : Http.Request) (response : Http.Response) {name : FieldName}
    (hname : name ≠ .contentLength) :
    (trim request response).headers.get? name = response.headers.get? name := by
  unfold trim
  split
  · split <;> rfl
  · split <;> exact response.get?_announceLength hname

theorem get?_finish (hid : r.headers.get? .xRequestId = some id) (response : Http.Response) :
    (finish r response).headers.get? .xRequestId =
      some ((response.headers.get? .xRequestId).getD id) := by
  rw [finish, get?_trim _ _ (by decide), hid, get?_propagate]

/-- What the client gets for a call, whatever has happened to the pool in the meantime. -/
theorem complete_call (now later : Balancer n) (net : Network) (u : Underway n) :
    (complete later u (now.call net u.lease u.request).1
      (now.call net u.lease u.request).2).1 =
      finish u.request (Call.ending net
        (Call.forwardRequest now.backends[u.lease.backend] u.request)).verdict.1 := by
  rw [← Call.judge_forward now.limits]
  rfl

/-! ### Backends with ids of their own -/

/-- An id that comes out of a call is one that the backend has put on a success. -/
theorem verdict_id_iff {x : Call.Ending} {own : String} :
    x.verdict.1.headers.get? .xRequestId = some own ↔
      ∃ head, x.Success head ∧ head.headers.get? .xRequestId = some own := by
  by_cases hsuccess : ∃ head, x.Success head
  · obtain ⟨head, h⟩ := hsuccess
    have hkept : x.verdict.1.headers.get? .xRequestId = head.headers.get? .xRequestId := by
      rw [h.verdict]
      exact Http.HopByHop.get?_strip head.headers (by decide)
    rw [hkept]
    constructor
    · intro hown
      exact ⟨head, h, hown⟩
    · rintro ⟨head', h', hown⟩
      have hsame : some (Except.ok head) = some (Except.ok head') := h.1.symm.trans h'.1
      cases hsame
      exact hown
  · rw [Call.Ending.verdict_failure hsuccess]
    constructor
    · intro hown
      cases hown
    · rintro ⟨head, h, _⟩
      exact absurd ⟨head, h⟩ hsuccess

/-- **A request keeps its id, unless its backend has another one for it.** Whoever gets no backend
is answered under the first id that the client sent, or else the fresh one. Whoever gets one is
forwarded under that id, and the answer has it, too, exactly if the backend has not put a different
one on a success; every failure of the call is answered under it. -/
theorem correlated_iff (b : Balancer n) (fresh : String) (r : Http.Request) :
    let id := idOf fresh r
    (∀ response b', accept b fresh r = (.answered response, b') →
      response.headers.get? .xRequestId = some id) ∧
    ∀ u b', accept b fresh r = (.underway u, b') →
      (∀ base sent, Call.forwardRequest base u.request = .ok sent →
        sent.headers.get? .xRequestId = some id) ∧
      ∀ (now later : Balancer n) (net : Network),
        let (result, latency) := now.call net u.lease u.request
        let response := (complete later u result latency).1
        let ending := Call.ending net
          (Call.forwardRequest now.backends[u.lease.backend] u.request)
        response.headers.get? .xRequestId = some id ↔
          ∀ head own, ending.Success head → head.headers.get? .xRequestId = some own →
            own = id := by
  intro id
  constructor
  · intro response b' haccept
    obtain ⟨own, rfl, hnone⟩ := accept_answered haccept
    rw [get?_finish (get?_assign fresh r), hnone, Option.getD_none]
  · intro u b' haccept
    have hid : u.request.headers.get? .xRequestId = some id := by
      rw [accept_underway haccept]
      exact get?_assign fresh r
    constructor
    · intro base sent hsent
      rw [Call.forwardRequest_headers hsent, Http.HopByHop.get?_strip _ (by decide),
        Http.Headers.get?, Http.Headers.values_remove_other _ (by decide)]
      exact hid
    · intro now later net
      show (complete later u (now.call net u.lease u.request).1
        (now.call net u.lease u.request).2).1.headers.get? .xRequestId = some id ↔ _
      rw [complete_call, get?_finish hid, Option.some_inj]
      constructor
      · intro hsame head own hsuccess hown
        rwa [verdict_id_iff.mpr ⟨head, hsuccess, hown⟩] at hsame
      · intro hagree
        cases hown : Http.Headers.get? _ .xRequestId with
        | none => rfl
        | some own =>
          obtain ⟨head, hsuccess, hhead⟩ := verdict_id_iff.mp hown
          exact hagree head own hsuccess hhead

/-- The backend sends back both ids that it has got. The first is the id of the request. -/
theorem correlated_of_echo :
    let base : Url := ⟨"http", some ⟨"", none, some (.v6 .loopback), some 8081⟩, "/", none, none⟩
    let b : Balancer 1 := .fresh .roundRobin #v[base] ⟨⟨1000⟩, ⟨1000⟩⟩ "/health"
    let net : Network := { Network.isolated with
      exchange := fun sent =>
        ⟨.ok ⟨.ok, ⟨sent.headers.fields.filter (·.name = .xRequestId)⟩, .empty⟩, ⟨1000⟩⟩ }
    let r : Http.Request := ⟨.get, ⟨none, none, ⟨"/"⟩⟩, .http11,
      ⟨[⟨.xRequestId, "ours"⟩, ⟨.xRequestId, "other"⟩]⟩, .empty⟩
    (handle b net "fresh" r).1.headers.get? .xRequestId = some "ours" := by
  intro base b net r
  let now : Balancer 1 := { b with pool := ⟨.fresh 1, .roundRobin 0⟩ }
  obtain ⟨_, hunderway⟩ := correlated_iff b "fresh" r
  have hroutes : routes r.uri = true := by decide +kernel
  have hlease : b.lease = .ok (.shared 0, now) := by rfl
  have haccept : accept b "fresh" r = (.underway ⟨r, .shared 0⟩, now) := by
    show (if routes r.uri then _ else _) = _
    rw [if_pos hroutes, hlease]
    rfl
  obtain ⟨_, hcalls⟩ := hunderway _ _ haccept
  have hjoin : Http.join base r.uri.pathAndQuery =
      .ok ⟨some "http", some "[::1]:8081", ⟨"/"⟩⟩ := by decide +kernel
  have hsent := Call.forwardRequest_of_join hjoin
  rw [handle, haccept]
  refine (hcalls now now net).mpr ?_
  rintro head own ⟨hhead, _⟩ hown
  replace hhead : Call.ending net (Call.forwardRequest base r) = some (.ok head) := hhead
  rw [hsent] at hhead
  cases hhead
  exact (Option.some.inj hown).symm

/-- An answer that comes with an id of its own keeps it. -/
theorem not_correlated_own_id :
    let base : Url := ⟨"http", some ⟨"", none, some (.v6 .loopback), some 8081⟩, "/", none, none⟩
    let b : Balancer 1 := .fresh .roundRobin #v[base] ⟨⟨1000⟩, ⟨1000⟩⟩ "/health"
    let net : Network := { Network.isolated with
      exchange := fun _ => ⟨.ok ⟨.ok, ⟨[⟨.xRequestId, "theirs"⟩]⟩, .text "b0"⟩, ⟨1000⟩⟩ }
    let r : Http.Request :=
      ⟨.get, ⟨none, none, ⟨"/"⟩⟩, .http11, ⟨[⟨.xRequestId, "ours"⟩]⟩, .empty⟩
    ((Call.forwardRequest base r).toOption.bind (·.headers.get? .xRequestId)) = some "ours" ∧
      (handle b net "fresh" r).1.headers.get? .xRequestId = some "theirs" := by
  decide +kernel

end Router
end Sluice
