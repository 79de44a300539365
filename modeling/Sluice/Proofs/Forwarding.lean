import Sluice.Call
import Sluice.Proofs.Addressing
import Sluice.Proofs.Targets

/-! What a backend gets to see of a request.

The request that is sent is put together from three sides. Its target has the scheme and the address
of the backend, and the path and query of the client; method and body are the client's, and so are
its fields but for those that are withheld. Where the client says that the request goes, in its
target or in a `host` field, does not enter: two requests that differ in nothing else are one to the
backend. -/
namespace Sluice

namespace Http.Headers

theorem values_removeAll (h : Headers) (names : List FieldName) (name : FieldName) :
    (h.removeAll names).values name = if name ∈ names then [] else h.values name := by
  induction names generalizing h with
  | nil => simp [removeAll]
  | cons first rest ih =>
    show ((h.remove first).removeAll rest).values name = _
    rw [ih]
    by_cases hfirst : name = first
    · subst hfirst
      simp
    · simp [hfirst, values_remove_other h hfirst]

theorem fields_removeAll (h : Headers) (names : List FieldName) :
    (h.removeAll names).fields = h.fields.filter (·.name ∉ names) := by
  induction names generalizing h with
  | nil =>
    show h.fields = _
    simp [List.filter_eq_self.mpr]
  | cons first rest ih =>
    show ((h.remove first).removeAll rest).fields = _
    rw [ih, remove, List.filter_filter]
    congr 1
    funext f
    by_cases hfirst : f.name = first <;> simp [hfirst]

end Http.Headers

namespace Call
open Http (Headers FieldName Field)

variable {base : Url} {r : Http.Request}

/-! ### Fields -/

/-- The fields that no backend gets to see: the host, and those of a single connection. -/
def withheld : List FieldName :=
  [⟨"host"⟩, ⟨"connection"⟩, ⟨"proxy-authenticate"⟩, ⟨"proxy-authorization"⟩, ⟨"te"⟩, ⟨"trailer"⟩,
    ⟨"transfer-encoding"⟩, ⟨"upgrade"⟩]

/-- The fields that every backend gets to see, in their order. -/
def passedOn (h : Headers) : List Field :=
  h.fields.filter (·.name ∉ withheld)

/-- These eight are what a forwarded request loses. -/
theorem strip_remove_host (h : Headers) :
    Http.HopByHop.strip (h.remove .host) = h.removeAll withheld := rfl

/-! ### Targets -/

/-- A host and a port to connect to, as a target names them. -/
def authorityText (host : String) : Option UInt16 → String
  | some port => host ++ ":" ++ toString port.toNat
  | none => host

theorem authorityOf_eq_ok {authority : String} (h : Http.authorityOf base = .ok authority) :
    ∃ host port, base.address = some (host, port) ∧ authority = authorityText host port := by
  unfold Http.authorityOf at h
  split at h
  · cases h
  · next host port hhost hport =>
    cases h
    exact ⟨host.text, some port, by simp [Url.address, hhost, hport], rfl⟩
  · next host hhost hport =>
    cases h
    exact ⟨host.text, none, by simp [Url.address, hhost, hport], rfl⟩

/-- Where a target can be made with the root, one can with every path and query that was read. -/
theorem join_of_passable (hbase : (Http.join base "/").isOk = true)
    (hr : r.uri.target.Passable) :
    ∃ host port, base.address = some (host, port) ∧
      Http.join base r.uri.pathAndQuery = .ok ⟨some base.scheme, some (authorityText host port),
        ⟨Http.rooted r.uri.pathAndQuery⟩⟩ := by
  obtain ⟨target, htarget⟩ := Results.isOk_iff.mp hbase
  obtain ⟨authority, _, hauthority, hscheme, hread, _, _⟩ := Http.join_eq_ok.mp htarget
  obtain ⟨host, port, haddress, htext⟩ := authorityOf_eq_ok hauthority
  subst htext
  have hpath : Http.PathAndQuery.ofString (Http.rooted r.uri.pathAndQuery) =
      .ok ⟨Http.rooted r.uri.pathAndQuery⟩ := by
    rw [Http.rooted_pathAndQuery]
    exact hr.ofString
  exact ⟨host, port, haddress,
    Http.join_eq_ok.mpr ⟨_, _, hauthority, hscheme, hread, hpath, rfl⟩⟩

/-! ### Requests -/

theorem forwardRequest_of_join {target : Http.Uri}
    (h : Http.join base r.uri.pathAndQuery = .ok target) :
    forwardRequest base r = .ok { r with
      uri := target
      version := .http11
      headers := r.headers.removeAll withheld } := by
  rw [forwardRequest, h, ← strip_remove_host]
  rfl

/-- **A request is passed on as it came, to the backend and nowhere else.** Whatever the client
sent, and whether its path and query were read with a scheme and an authority or apart from them,
the request for the backend can be made. It has the method, the body, the path and query and the
fields of the client, but for those that are withheld; it is addressed to the host and port of the
backend, in the one version spoken there. Another request with the same method, body, path and query
and the same values under every name that is passed on becomes the same request, whatever else its
target and its fields say. -/
theorem forwarded_unchanged (hbase : (Http.join base "/").isOk = true) {text : String}
    {u : Http.Uri} (hu : Http.Uri.ofString text = .ok u) (hr : r.uri.target = u.target) :
    ∃ sent host port, forwardRequest base r = .ok sent ∧ base.address = some (host, port) ∧
      sent.uri = ⟨some base.scheme, some (authorityText host port),
        ⟨Http.rooted r.uri.pathAndQuery⟩⟩ ∧
      sent.method = r.method ∧ sent.body = r.body ∧ sent.version = .http11 ∧
      (∀ name, sent.headers.values name =
        if name ∈ withheld then [] else r.headers.values name) ∧
      ∀ r' : Http.Request, r'.method = r.method → r'.body = r.body →
        r'.uri.pathAndQuery = r.uri.pathAndQuery →
        (∀ name, name ∉ withheld → r'.headers.values name = r.headers.values name) →
        ∃ headers, forwardRequest base r' = .ok { sent with headers } ∧
          (∀ name, headers.values name = sent.headers.values name) ∧
          (passedOn r'.headers = passedOn r.headers → headers = sent.headers) := by
  have hpassable : r.uri.target.Passable := by
    rw [hr]
    exact Http.Uri.ofString_passable text u hu
  obtain ⟨host, port, haddress, hjoin⟩ := join_of_passable hbase hpassable
  refine ⟨_, host, port, forwardRequest_of_join hjoin, haddress, rfl, rfl, rfl, rfl,
    fun name => Headers.values_removeAll r.headers withheld name, ?_⟩
  intro r' hmethod hbody hpath hvalues
  refine ⟨r'.headers.removeAll withheld, ?_, ?_, ?_⟩
  · rw [forwardRequest_of_join (by rw [hpath]; exact hjoin), hmethod, hbody]
  · intro name
    rw [Headers.values_removeAll, Headers.values_removeAll]
    split
    · rfl
    · next hname => exact hvalues name hname
  · intro hfields
    have hsame : (r'.headers.removeAll withheld).fields =
        (r.headers.removeAll withheld).fields := by
      rw [Headers.fields_removeAll, Headers.fields_removeAll]
      exact hfields
    exact congrArg Headers.mk hsame

/-- A client that takes the balancer for a proxy, and names another host in two places. -/
theorem forwarded_unchanged_past_other_host :
    let base : Url :=
      ⟨"http", some ⟨"u", none, some (.v6 .loopback), some 8081⟩, "/ignored", none, none⟩
    let r : Http.Request := ⟨⟨"PUT"⟩, ⟨some "http", some "elsewhere:1", ⟨"?q=a/../b"⟩⟩, .http2,
      ⟨[⟨.host, "elsewhere"⟩, ⟨⟨"x-a"⟩, "1"⟩, ⟨.te, "trailers"⟩, ⟨⟨"x-a"⟩, "2"⟩]⟩, .text "x"⟩
    ∃ sent, forwardRequest base r = .ok sent ∧
      sent.uri = ⟨some "http", some "[::1]:8081", ⟨"/?q=a/../b"⟩⟩ ∧
      sent.headers.values ⟨"x-a"⟩ = ["1", "2"] ∧ sent.headers.values .host = [] := by
  intro base r
  have hbase : (Http.join base "/").isOk = true := by decide +kernel
  have hread : Http.Uri.ofString "http://elsewhere:1?q=a/../b" = .ok r.uri := by decide +kernel
  obtain ⟨sent, host, port, hsent, haddress, huri, _, _, _, hvalues, _⟩ :=
    forwarded_unchanged hbase hread rfl
  have hplace : base.address = some ("[::1]", some 8081) := by decide +kernel
  rw [hplace] at haddress
  cases haddress
  refine ⟨sent, hsent, huri.trans (by decide +kernel), ?_, ?_⟩
  · exact (hvalues _).trans (by decide +kernel)
  · exact (hvalues _).trans (by decide +kernel)

end Call
end Sluice
