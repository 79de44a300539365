import Sluice.Proofs.Authorities
import Sluice.Proofs.Correlation
import Sluice.Proofs.TargetParts

/-! Which requests are dispatched.

The target of a request has one of four forms, and its text shows which (`TargetForm.ofText`). A
path, be it the whole target or part of an absolute URI, is rooted, if only because an empty one
stands for the root; the asterisk and a bare authority have no path that is. So the requests of the
first two forms are routed, whatever their method, and those of the others are not found. A routed
request asks for one lease. If it gets none it is answered with the reason; if it gets one, its call
is recorded and the lease released once, and the answer is the success of the backend or a 503 of
the balancer's own. -/
namespace Sluice

namespace Http

inductive TargetForm where
  | origin
  | absolute
  | authority
  | asterisk
deriving DecidableEq, Repr

namespace TargetForm

/-- The form of a target that is neither a path nor the asterisk. -/
def ofChars (cs : List Char) : TargetForm :=
  match cs.dropWhile isSchemeChar with
  | ':' :: '/' :: '/' :: _ => .absolute
  | _ => .authority

/-- The form of a target, by its text. -/
def ofText (s : String) : TargetForm :=
  match s.toList with
  | ['*'] => .asterisk
  | '/' :: _ => .origin
  | cs => ofChars cs

theorem ofChars_absolute {cs behind : List Char}
    (h : cs.dropWhile isSchemeChar = ':' :: '/' :: '/' :: behind) : ofChars cs = .absolute := by
  unfold ofChars
  simp only [h]

theorem ofChars_authority {cs : List Char}
    (h : ∀ behind, cs.dropWhile isSchemeChar ≠ ':' :: '/' :: '/' :: behind) :
    ofChars cs = .authority := by
  unfold ofChars
  split
  · next hback => exact absurd hback (h _)
  · rfl

end TargetForm

/-! ### What a target of each form is read as -/

/-- A target that was read from a text of this form. -/
inductive Uri.Shape : TargetForm → Uri → Prop where
  | origin {t} : t.text.toList.head? = some '/' → Shape .origin ⟨none, none, t⟩
  | absolute {scheme authority t} :
      t.text.toList = [] ∨ t.text.toList.head? = some '/' ∨ t.text.toList.head? = some '?' →
      Shape .absolute ⟨some scheme, some authority, t⟩
  | authority {a} : Shape .authority ⟨none, some a, ⟨""⟩⟩
  | asterisk : Shape .asterisk ⟨none, none, ⟨"*"⟩⟩

namespace Uri
variable {s : String} {u : Uri} {form : TargetForm} {cs : List Char}

/-- Behind an authority stands nothing, or a path, a query or a fragment; a fragment is cut off. -/
theorem text_behind_authority {front rest : List Char} {t : PathAndQuery}
    (hread : Authority.read cs = .ok (front, rest))
    (ht : PathAndQuery.ofString (String.ofList rest) = .ok t) :
    t.text.toList = [] ∨ t.text.toList.head? = some '/' ∨ t.text.toList.head? = some '?' := by
  obtain ⟨_, hrest, _⟩ := Authority.read_eq_ok hread
  rw [PathAndQuery.text_of_ofString ht, String.toList_ofList]
  have hfirst := List.head?_dropWhile_not (!Authority.isEnd ·) cs
  rw [← hrest] at hfirst
  cases rest with
  | nil => exact .inl rfl
  | cons c behind =>
    have hend : Authority.isEnd c = true := by simpa using hfirst
    simp only [Authority.isEnd, Bool.or_eq_true, decide_eq_true_eq] at hend
    rcases hend with (rfl | rfl) | rfl
    · exact .inr (.inl rfl)
    · exact .inr (.inr rfl)
    · exact .inl rfl

theorem ofLongText_shape (h : ofLongText cs = .ok u) : Shape (TargetForm.ofChars cs) u := by
  unfold ofLongText at h
  obtain ⟨parts, hparts, h⟩ := Results.bind_eq_ok.mp h
  unfold splitScheme at hparts
  split at hparts
  · next behind hback =>
    dsimp only at hparts
    split at hparts
    · cases hparts
    · cases hparts
      rw [TargetForm.ofChars_absolute hback]
      obtain ⟨⟨front, rest⟩, hread, h⟩ := Results.bind_eq_ok.mp h
      dsimp only at h
      split at h
      · cases h
      · obtain ⟨t, ht, h⟩ := Results.bind_eq_ok.mp h
        cases h
        exact .absolute (text_behind_authority hread ht)
  · next hnone =>
    cases hparts
    rw [TargetForm.ofChars_authority hnone]
    obtain ⟨⟨front, rest⟩, _, h⟩ := Results.bind_eq_ok.mp h
    dsimp only at h
    split at h
    · cases h
      exact .authority
    · cases h

theorem ofString_shape (h : ofString s = .ok u) : Shape (TargetForm.ofText s) u := by
  unfold ofString at h
  unfold TargetForm.ofText
  split at h
  · cases h
  · split at h
    · cases h
    · next hs =>
      cases h
      rw [hs]
      exact .asterisk
    · next c hstar hs =>
      rw [hs]
      split at h
      · next hslash =>
        subst hslash
        cases h
        exact .origin rfl
      · next hslash =>
        obtain ⟨_, _, h⟩ := Results.bind_eq_ok.mp h
        cases h
        split
        · next heq => exact absurd (List.singleton_inj.mp heq) hstar
        · next heq => exact absurd (List.cons.inj heq).1 hslash
        · rw [TargetForm.ofChars_authority]
          · exact .authority
          · intro behind hback
            have hlength := (List.dropWhile_sublist isSchemeChar (l := [c])).length_le
            rw [hback] at hlength
            exact absurd hlength (by simp)
    · next rest hs =>
      obtain ⟨t, ht, h⟩ := Results.bind_eq_ok.mp h
      cases h
      rw [hs]
      refine .origin ?_
      rw [PathAndQuery.text_of_ofString ht, hs]
      rfl
    · next hstar _ hslash =>
      split
      · next hs => exact absurd hs hstar
      · next hs => exact absurd hs (hslash _)
      · exact ofLongText_shape h

end Uri
end Http

namespace Router
open Http (TargetForm)
open Http.RequestId

variable {n : Nat} {b b' : Balancer n} {fresh : String} {r : Http.Request} {u : Http.Uri}
  {form : TargetForm} {l : Lease n}

/-! ### Routes -/

/-- Requests of these forms are dispatched. -/
def Dispatchable (form : TargetForm) : Prop :=
  form = .origin ∨ form = .absolute

/-- The path is rooted where the text is, and where it has none. -/
theorem path_rooted_iff {t : Http.PathAndQuery} : t.path.startsWith "/" = true ↔
    t.text.toList = [] ∨ t.text.toList.head? = some '/' ∨ t.text.toList.head? = some '?' := by
  rw [Http.startsWith_slash_iff_head?, Http.PathAndQuery.path]
  generalize t.text.toList = cs
  cases cs with
  | nil => simp
  | cons c rest => by_cases hc : c = '?' <;> simp [hc]

theorem routes_iff (h : Http.Uri.Shape form u) : routes u = true ↔ Dispatchable form := by
  cases h with
  | @origin t hslash =>
    have hsome : t.text.isEmpty = false := by
      refine Bool.eq_false_iff.mpr fun hempty => ?_
      rw [String.isEmpty_iff.mp hempty] at hslash
      cases hslash
    have hpath : Http.Uri.path ⟨none, none, t⟩ = t.path := by
      simp [Http.Uri.path, hsome]
    rw [routes, hpath, path_rooted_iff]
    exact ⟨fun _ => .inl rfl, fun _ => .inr (.inl hslash)⟩
  | @absolute scheme authority t htext =>
    have hpath : Http.Uri.path ⟨some scheme, some authority, t⟩ = t.path := rfl
    rw [routes, hpath, path_rooted_iff]
    exact ⟨fun _ => .inr rfl, fun _ => htext⟩
  | @authority a =>
    have hpath : Http.Uri.path ⟨none, some a, ⟨""⟩⟩ = "" := rfl
    rw [routes, hpath, Http.startsWith_slash_iff_head?]
    exact ⟨nofun, by rintro (h | h) <;> cases h⟩
  | asterisk =>
    have hpath : Http.Uri.path ⟨none, none, ⟨"*"⟩⟩ = "*" := by decide +kernel
    have hhead : "*".toList.head? ≠ some '/' := by decide +kernel
    rw [routes, hpath, Http.startsWith_slash_iff_head?]
    exact ⟨fun h => absurd h hhead, by rintro (h | h) <;> cases h⟩

theorem routes_ofString_iff {target : String} (h : Http.Uri.ofString target = .ok u) :
    routes u = true ↔ Dispatchable (.ofText target) :=
  routes_iff (Http.Uri.ofString_shape h)

/-! ### One dispatch -/

theorem assign_uri (fresh : String) (r : Http.Request) : (assign fresh r).uri = r.uri := by
  unfold assign
  split <;> rfl

theorem accept_of_routes (b : Balancer n) (fresh : String) (h : routes r.uri = true) :
    accept b fresh r =
      match b.lease with
      | .ok (l, b') => (.underway ⟨assign fresh r, l⟩, b')
      | .error e => (.answered (finish (assign fresh r) (.ofSelectionError e)), b) := by
  cases hlease : b.lease <;> simp only [accept, assign_uri, h, if_true, hlease]

theorem accept_of_not_routes (h : routes r.uri = false) :
    accept b fresh r = (.answered (finish (assign fresh r) .notFound), b) := by
  simp only [accept, assign_uri, h, Bool.false_eq_true, if_false]

/-- A request that is dispatched, and nothing else. -/
def dispatched (b : Balancer n) (net : Network) (own : Http.Request) :
    Http.Response × Balancer n :=
  let (response, b) := b.dispatch net own
  (finish own response, b)

theorem handle_of_routes (h : routes r.uri = true) (net : Network) :
    handle b net fresh r = dispatched b net (assign fresh r) := by
  rw [handle, accept_of_routes b fresh h, dispatched, Balancer.dispatch]
  cases b.lease <;> rfl

/-! ### The answer -/

theorem finish_status (own : Http.Request) (response : Http.Response) :
    (finish own response).status = response.status := by
  have hmarked : ∀ id, (propagate id response).status = response.status := by
    intro id
    unfold propagate
    split
    · split <;> rfl
    · rfl
  have hannounced : ∀ x : Http.Response, x.announceLength.status = x.status := by
    intro x
    unfold Http.Response.announceLength
    split <;> rfl
  rw [finish, trim]
  split
  · split <;> exact hmarked _
  · split <;> exact (hannounced _).trans (hmarked _)

/-- What the client gets for a call that ended so: the success of the backend, or the balancer's
own answer. -/
def AnsweredFor (own : Http.Request) (ending : Call.Ending) (response : Http.Response) : Prop :=
  (∃ head, ending.Success head ∧ response.status = head.status ∧
    response = finish own { head with headers := Http.HopByHop.strip head.headers }) ∨
  (¬ ∃ head, ending.Success head) ∧ response.status.code = 503 ∧
    response = finish own .unavailable

theorem answeredFor_verdict (own : Http.Request) (ending : Call.Ending) :
    AnsweredFor own ending (finish own ending.verdict.1) := by
  by_cases hsuccess : ∃ head, ending.Success head
  · obtain ⟨head, h⟩ := hsuccess
    rw [h.verdict]
    exact .inl ⟨head, h, finish_status own _, rfl⟩
  · rw [Call.Ending.verdict_failure hsuccess]
    exact .inr ⟨hsuccess, by rw [finish_status]; rfl, rfl⟩

/-- No dispatch comes to a status of another kind. -/
theorem dispatch_status (b : Balancer n) (net : Network) (own : Http.Request) :
    (b.dispatch net own).1.status.code = 503 ∨
      200 ≤ (b.dispatch net own).1.status.code ∧ (b.dispatch net own).1.status.code ≤ 206 := by
  rw [Balancer.dispatch]
  cases hlease : b.lease with
  | error e => exact .inl rfl
  | ok taken =>
    obtain ⟨l, b'⟩ := taken
    have hverdict := Call.judge_forward b'.limits net b'.backends[l.backend] own
    generalize Call.ending net (Call.forwardRequest b'.backends[l.backend] own) = ending at hverdict
    show (Balancer.judge (b'.call net l own).1).1.status.code = 503 ∨
      200 ≤ (Balancer.judge (b'.call net l own).1).1.status.code ∧
        (Balancer.judge (b'.call net l own).1).1.status.code ≤ 206
    rw [Balancer.call, hverdict]
    by_cases hsuccess : ∃ head, ending.Success head
    · obtain ⟨head, h⟩ := hsuccess
      rw [h.verdict]
      exact .inr h.2
    · rw [Call.Ending.verdict_failure hsuccess]
      exact .inl rfl

theorem uri_of_texts {method target version : String} {fields : List (String × String)}
    {body : Http.Body} (h : Http.Request.ofTexts method target version fields body = .ok r) :
    Http.Uri.ofString target = .ok r.uri := by
  obtain ⟨headers, _, h⟩ := Results.bind_eq_ok.mp h
  split at h
  · next huri _ =>
    cases h
    exact huri
  · cases h

/-- **Which requests are dispatched, and that they are dispatched once.** Of the requests that can
be made, with whatever method, those are dispatched whose target is a path or an absolute URI, and
no others. Such a request asks for one lease. It is answered at once with the reason if it gets
none; otherwise its call is put on record once, when it comes back, with the lease, and the client
gets the success of the backend or a 503. Targets of the other two forms are not found, and the
balancer does not hear of them. -/
theorem dispatched_by_form {method target version : String} {fields : List (String × String)}
    {body : Http.Body} {r : Http.Request}
    (hr : Http.Request.ofTexts method target version fields body = .ok r)
    (b : Balancer n) (fresh : String) :
    let own := assign fresh r
    (∀ net, handle b net fresh r = dispatched b net own ↔ Dispatchable (.ofText target)) ∧
    (Dispatchable (.ofText target) →
      (∀ e, b.lease = .error e →
        let response := finish own (.ofSelectionError e)
        accept b fresh r = (.answered response, b) ∧ response.status.code = 503) ∧
      ∀ l b', b.lease = .ok (l, b') →
        accept b fresh r = (.underway ⟨own, l⟩, b') ∧
        ∀ (now later : Balancer n) (net : Network),
          let (result, latency) := now.call net l own
          let (response, after) := complete later ⟨own, l⟩ result latency
          let ending := Call.ending net (Call.forwardRequest (now.backends.get l.backend) own)
          AnsweredFor own ending response ∧
            after.pool = (later.pool.record l.backend ⟨ending.verdict.2, latency⟩).release l) ∧
    (¬ Dispatchable (.ofText target) →
      let response := finish own .notFound
      accept b fresh r = (.answered response, b) ∧ response.status.code = 404) := by
  intro own
  have hroutes := routes_ofString_iff (uri_of_texts hr)
  have hmissed : ¬ Dispatchable (.ofText target) →
      accept b fresh r = (.answered (finish own .notFound), b) ∧
        (finish own .notFound).status.code = 404 := by
    intro hform
    refine ⟨accept_of_not_routes (Bool.eq_false_iff.mpr (mt hroutes.mp hform)), ?_⟩
    rw [finish_status]
    rfl
  refine ⟨fun net => ⟨fun hdispatched => ?_, fun hform => ?_⟩, fun hform => ⟨?_, ?_⟩, hmissed⟩
  · refine Classical.not_not.mp fun hform => ?_
    obtain ⟨haccept, hcode⟩ := hmissed hform
    have hanswer : finish own .notFound = finish own (b.dispatch net own).1 := by
      rw [handle, haccept] at hdispatched
      exact congrArg Prod.fst hdispatched
    rw [hanswer, finish_status] at hcode
    have hstatus := dispatch_status b net own
    omega
  · exact handle_of_routes (hroutes.mpr hform) net
  · intro e he response
    have haccept := accept_of_routes b fresh (hroutes.mpr hform)
    rw [he] at haccept
    exact ⟨haccept, by rw [finish_status]; rfl⟩
  · intro l b' hl
    have haccept := accept_of_routes b fresh (hroutes.mpr hform)
    rw [hl] at haccept
    refine ⟨haccept, fun now later net => ?_⟩
    have hverdict := Call.judge_forward now.limits net (now.backends.get l.backend) own
    show AnsweredFor own _ (complete later ⟨own, l⟩ (now.call net l own).1
      (now.call net l own).2).1 ∧ _
    rw [complete_call]
    refine ⟨answeredFor_verdict own _, ?_⟩
    rw [← hverdict]
    rfl

/-- A query without a path, under a method that asks for a tunnel. -/
theorem dispatched_by_form_without_path :
    let base : Url := ⟨"http", some ⟨"", none, some (.v6 .loopback), some 8081⟩, "/", none, none⟩
    let b : Balancer 1 := .fresh .roundRobin #v[base] ⟨⟨1000⟩, ⟨1000⟩⟩ "/health"
    let r : Http.Request := ⟨.connect, ⟨some "http", some "other.test", ⟨"?x=1"⟩⟩, .http11,
      .empty, .empty⟩
    Http.Request.ofTexts "CONNECT" "http://other.test?x=1" "HTTP/1.1" [] .empty = .ok r ∧
      Dispatchable (.ofText "http://other.test?x=1") ∧
      ∀ net, handle b net "fresh" r = dispatched b net (assign "fresh" r) := by
  intro base b r
  have hr : Http.Request.ofTexts "CONNECT" "http://other.test?x=1" "HTTP/1.1" [] .empty =
      .ok r := by
    decide +kernel
  have hform : Dispatchable (.ofText "http://other.test?x=1") := .inr (by decide +kernel)
  obtain ⟨hiff, _⟩ := dispatched_by_form hr b "fresh"
  exact ⟨hr, hform, fun net => (hiff net).mpr hform⟩

/-- The backend would have answered. -/
theorem asterisk_not_dispatched :
    let base : Url := ⟨"http", some ⟨"", none, some (.v6 .loopback), some 8081⟩, "/", none, none⟩
    let b : Balancer 1 := .fresh .roundRobin #v[base] ⟨⟨1000⟩, ⟨1000⟩⟩ "/health"
    let net : Network := { Network.isolated with
      exchange := fun _ => ⟨.ok ⟨.ok, .empty, .text "b0"⟩, ⟨1000⟩⟩ }
    let r : Http.Request := ⟨⟨"OPTIONS"⟩, ⟨none, none, ⟨"*"⟩⟩, .http11, .empty, .empty⟩
    Http.Request.ofTexts "OPTIONS" "*" "HTTP/1.1" [] .empty = .ok r ∧
      (handle b net "fresh" r).1.status.code = 404 ∧
      (dispatched b net (assign "fresh" r)).1.status.code = 200 := by
  decide +kernel

end Router
end Sluice
