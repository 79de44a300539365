import Mathlib.Data.List.DropRight
import Sluice.Proofs.Forwarding

/-! Fields that belong to one connection.

HTTP makes nine fields specific to one connection in every message, and a message can add to them by
the names in its `connection` fields. Stripping asks neither HTTP nor the message. It has seven
names of its own; `keep-alive` and `proxy-connection` are not among them, and what `connection` says
is dropped unread. So nothing of one connection reaches another exactly if the message has made
nothing specific but by those seven names (`Recognized`). It is the same for both messages of a
call, and each has its own list. -/
namespace Sluice

namespace Http

def FieldName.keepAlive : FieldName := ⟨"keep-alive"⟩
def FieldName.proxyConnection : FieldName := ⟨"proxy-connection"⟩

namespace HopByHop
variable {h : Headers} {name : FieldName}

/-! ### What belongs to one connection -/

/-- The names that HTTP makes specific to one connection. -/
def fixed : List FieldName :=
  .keepAlive :: .proxyConnection :: names

def isBlank (c : Char) : Bool :=
  c = ' ' || c = '\t'

/-- The names in a value of `connection`: commas part them, blanks around them and their case do not
count. -/
def options (value : String) : List FieldName :=
  (value.toList.splitOn ',').map fun option =>
    ⟨(String.ofList ((option.dropWhile isBlank).rdropWhile isBlank)).toLower⟩

example : options "close,\tX-Drop , te" = [⟨"close"⟩, ⟨"x-drop"⟩, .te] := by decide +kernel

/-- The names that a message lists itself, over all its `connection` fields. -/
def listed (h : Headers) : List FieldName :=
  (h.values .connection).flatMap options

/-- A message with these fields makes the name specific to its connection. -/
def Specific (h : Headers) (name : FieldName) : Prop :=
  name ∈ fixed ∨ name ∈ listed h

/-- Of the fields that came on one connection, those specific to it are not passed on. -/
def Confined (h passed : Headers) : Prop :=
  ∀ name, Specific h name → passed.values name = []

/-- Whichever of these fields are specific to their connection have a name that is stripped. -/
structure Recognized (h : Headers) : Prop where
  keepAlive : h.values .keepAlive = []
  proxyConnection : h.values .proxyConnection = []
  listed : ∀ name ∈ listed h, name ∈ names ∨ h.values name = []

/-! ### Stripping -/

theorem values_strip (h : Headers) (name : FieldName) :
    (strip h).values name = if name ∈ names then [] else h.values name :=
  Headers.values_removeAll h names name

theorem values_strip_general (hname : ¬ Specific h name) :
    (strip h).values name = h.values name := by
  have hout : name ∉ names := fun hin =>
    hname (.inl (List.mem_cons_of_mem _ (List.mem_cons_of_mem _ hin)))
  rw [values_strip, if_neg hout]

theorem values_strip_eq_nil_iff :
    (strip h).values name = [] ↔ name ∈ names ∨ h.values name = [] := by
  rw [values_strip]
  split
  · next hin => simp [hin]
  · next hout => simp [hout]

theorem confined_strip_iff : Confined h (strip h) ↔ Recognized h := by
  have hkeep : FieldName.keepAlive ∉ names := by decide
  have hproxy : FieldName.proxyConnection ∉ names := by decide
  simp only [Confined, values_strip_eq_nil_iff]
  constructor
  · intro hconfined
    refine ⟨?_, ?_, fun name hname => hconfined name (.inr hname)⟩
    · exact (hconfined .keepAlive (.inl (by decide))).resolve_left hkeep
    · exact (hconfined .proxyConnection (.inl (by decide))).resolve_left hproxy
  · rintro hrecognized name (hfixed | hlisted)
    · rcases List.mem_cons.mp hfixed with rfl | hrest
      · exact .inr hrecognized.keepAlive
      · rcases List.mem_cons.mp hrest with rfl | hin
        · exact .inr hrecognized.proxyConnection
        · exact .inl hin
    · exact hrecognized.listed name hlisted

/-- The host of a message says nothing about its connection. -/
theorem specific_remove_host : Specific (h.remove .host) name ↔ Specific h name := by
  have hconnection : (h.remove .host).values .connection = h.values .connection :=
    Headers.values_remove_other h (by decide)
  rw [Specific, Specific, listed, listed, hconnection]

end HopByHop
end Http

namespace Call
open Http (FieldName Headers)
open Http.HopByHop

variable {base : Url} {net : Network} {limits : Limits} {r sent : Http.Request}
  {response : Http.Response}

/-! ### Calls -/

theorem forwardRequest_headers (h : forwardRequest base r = .ok sent) :
    sent.headers = strip (r.headers.remove .host) := by
  unfold forwardRequest at h
  cases hjoin : Http.join base r.uri.pathAndQuery with
  | error e =>
    rw [hjoin] at h
    cases h
  | ok uri =>
    rw [hjoin] at h
    cases h
    rfl

/-- A response that comes back is the one that the exchange brought, stripped. -/
theorem forward_eq_ok (h : (forward limits net base r).1 = .ok response) :
    ∃ sent head, forwardRequest base r = .ok sent ∧ (net.exchange sent).result = .ok head ∧
      response = { head with headers := strip head.headers } := by
  unfold forward at h
  cases hsent : forwardRequest base r with
  | error e =>
    rw [hsent] at h
    cases h
  | ok sent =>
    rw [hsent] at h
    cases hresult : (net.exchange sent).result with
    | error f =>
      simp only [hresult] at h
      cases h
    | ok head =>
      simp only [hresult] at h
      cases h
      exact ⟨sent, head, rfl, hresult, rfl⟩

/-- **What belongs to one connection ends there, as far as it is recognized.** Whatever the fields
of a message, those that are not specific to its connection keep their values, in order, and none of
the others are left exactly if all that is specific is recognized. That is done to every request on
its way to a backend, once its host is gone, and to every response on its way back. -/
theorem confined_iff (h : Headers) (limits : Limits) (net : Network) (base : Url)
    (r : Http.Request) :
    (∀ name, ¬ Specific h name → (strip h).values name = h.values name) ∧
    (Confined h (strip h) ↔ Recognized h) ∧
    (∀ sent, forwardRequest base r = .ok sent → sent.headers = strip (r.headers.remove .host) ∧
      (Confined r.headers sent.headers ↔ Recognized (r.headers.remove .host))) ∧
    ∀ response, (forward limits net base r).1 = .ok response →
      ∃ sent head, forwardRequest base r = .ok sent ∧ (net.exchange sent).result = .ok head ∧
        response = { head with headers := strip head.headers } ∧
        (Confined head.headers response.headers ↔ Recognized head.headers) := by
  refine ⟨fun _ => values_strip_general, confined_strip_iff, ?_, ?_⟩
  · intro sent hsent
    have hheaders := forwardRequest_headers hsent
    refine ⟨hheaders, ?_⟩
    rw [← confined_strip_iff, ← hheaders]
    simp only [Confined, specific_remove_host]
  · intro response hresponse
    obtain ⟨sent, head, hsent, hhead, rfl⟩ := forward_eq_ok hresponse
    exact ⟨sent, head, hsent, hhead, rfl, confined_strip_iff⟩

/-- Both sides of a call ask for another protocol, and nothing of it goes further. -/
theorem confined_of_upgrade :
    let base : Url := ⟨"http", some ⟨"", none, some (.v6 .loopback), some 8081⟩, "/", none, none⟩
    let r : Http.Request := ⟨.get, ⟨none, none, ⟨"/"⟩⟩, .http11,
      ⟨[⟨.connection, "Upgrade"⟩, ⟨.upgrade, "h2c"⟩, ⟨.connection, "TE"⟩, ⟨.te, "trailers"⟩]⟩,
      .empty⟩
    let head : Http.Response :=
      ⟨.ok, ⟨[⟨.connection, "close, trailer,"⟩, ⟨.trailer, "x"⟩]⟩, .empty⟩
    let net : Network := { Network.isolated with exchange := fun _ => ⟨.ok head, ⟨1000⟩⟩ }
    ∃ sent response, forwardRequest base r = .ok sent ∧
      (forward ⟨⟨1000⟩, ⟨1000⟩⟩ net base r).1 = .ok response ∧
      Confined r.headers sent.headers ∧ Confined head.headers response.headers := by
  intro base r head net
  obtain ⟨_, _, hrequest, hresponse⟩ := confined_iff r.headers ⟨⟨1000⟩, ⟨1000⟩⟩ net base r
  have hjoin : Http.join base r.uri.pathAndQuery =
      .ok ⟨some "http", some "[::1]:8081", ⟨"/"⟩⟩ := by decide +kernel
  have hsent := forwardRequest_of_join hjoin
  have hcame : (forward ⟨⟨1000⟩, ⟨1000⟩⟩ net base r).1 =
      .ok { head with headers := strip head.headers } := by
    rw [forward, hsent]
    rfl
  obtain ⟨_, hout⟩ := hrequest _ hsent
  obtain ⟨_, _, _, hhead, _, hback⟩ := hresponse _ hcame
  cases hhead
  refine ⟨_, _, hsent, hcame, hout.mpr ?_, hback.mpr ?_⟩
  · exact ⟨by decide, by decide, by decide +kernel⟩
  · exact ⟨by decide, by decide, by decide +kernel⟩

/-- Neither a field that `connection` lists nor `keep-alive` is held back. -/
theorem not_confined_listed :
    let h : Headers := ⟨[⟨.connection, "close, X-Drop"⟩, ⟨⟨"x-drop"⟩, "1"⟩,
      ⟨.keepAlive, "timeout=5"⟩, ⟨⟨"a"⟩, "1"⟩]⟩
    Specific h ⟨"x-drop"⟩ ∧ Specific h .keepAlive ∧ ¬ Confined h (strip h) ∧
      strip h = ⟨[⟨⟨"x-drop"⟩, "1"⟩, ⟨.keepAlive, "timeout=5"⟩, ⟨⟨"a"⟩, "1"⟩]⟩ := by
  intro h
  have hlisted : Specific h ⟨"x-drop"⟩ := .inr (by decide +kernel)
  have hstrip : strip h = ⟨[⟨⟨"x-drop"⟩, "1"⟩, ⟨.keepAlive, "timeout=5"⟩, ⟨⟨"a"⟩, "1"⟩]⟩ := by
    decide +kernel
  refine ⟨hlisted, .inl (by decide), ?_, hstrip⟩
  intro hconfined
  have hgone := hconfined _ hlisted
  rw [hstrip] at hgone
  cases hgone

end Call
end Sluice
