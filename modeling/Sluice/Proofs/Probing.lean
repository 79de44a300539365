import Sluice.Proofs.Acceptance
import Sluice.Proofs.Addressing
import Sluice.Proofs.Hosts
import Sluice.Proofs.Targets
import Sluice.Proofs.WholeSweeps

/-! Which backends of an accepted configuration can be probed.

A probe needs a target of the backend's URL and the path that is configured. Validation reads the
URLs, and of the path it looks at the first character. So the path may hold what no target holds, or
be too long for one, and then no backend can be probed; and a host may hold what no authority
holds, and then that backend cannot. In every other case the probe goes out. -/
namespace Sluice

namespace Http
variable {u : Url} {path : String}

/-- The path can be that of a target. -/
structure PathAndQuery.Readable (path : String) : Prop where
  fits : path.utf8ByteSize ≤ maxUriBytes
  wellFormed : PathAndQuery.wellFormed (beforeFragment path.toList) = true

theorem PathAndQuery.ofString_isOk_iff : (ofString path).isOk = true ↔ Readable path := by
  rw [Results.isOk_iff]
  constructor
  · intro ⟨p, hp⟩
    obtain ⟨hfits, hwellFormed, _⟩ := ofString_eq_ok.mp hp
    exact ⟨hfits, hwellFormed⟩
  · intro h
    exact ⟨_, ofString_eq_ok.mpr ⟨h.fits, h.wellFormed, rfl⟩⟩

/-- The host can be named in an authority. -/
def Sendable (u : Url) : Prop :=
  ∀ host, u.host? = some host → ∀ c ∈ host.text.toList, c ∉ Url.Host.unsendable

end Http

namespace Config
open Http.PathAndQuery (Readable)

variable {c : Config} {text path : String} {u : Url}

/-- Whether a target can be made of an accepted backend, decided by the path and the host alone. -/
theorem join_isOk_iff (hu : backendUrl text = .ok u) (hslash : path.startsWith "/" = true) :
    (Http.join u path).isOk = true ↔ Readable path ∧ Http.Sendable u := by
  obtain ⟨hscheme, _, _, port, haddress⟩ := backendUrl_address hu
  obtain ⟨host, hhost, rfl, _⟩ := Url.exists_host haddress
  have hauthority := Http.authorityOf_eq haddress
  obtain ⟨s, hs⟩ := Url.ofString_web text u (backendUrl_ok hu).1 hscheme host hhost
  have hnamed := Url.Host.ofString_port_iff hs port.toNat
  have hrooted : Http.rooted path = path := if_pos hslash
  have hsendable : Http.Sendable u ↔ ∀ c ∈ host.text.toList, c ∉ Url.Host.unsendable := by
    constructor
    · exact fun h => h host hhost
    · intro h host' hhost'
      obtain rfl := Option.some.inj (hhost.symm.trans hhost')
      exact h
  rw [← Http.PathAndQuery.ofString_isOk_iff, hsendable, ← hnamed, Results.isOk_iff,
    Results.isOk_iff]
  constructor
  · intro ⟨target, htarget⟩
    obtain ⟨authority, t, hof, _, hread, ht, _⟩ := Http.join_eq_ok.mp htarget
    obtain rfl := Except.ok.inj (hof.symm.trans hauthority)
    rw [hrooted] at ht
    exact ⟨⟨t, ht⟩, hread⟩
  · intro ⟨⟨t, ht⟩, hread⟩
    have hok : Http.schemeOfString u.scheme = .ok u.scheme := by
      rw [hscheme]
      decide +kernel
    rw [← hrooted] at ht
    exact ⟨_, Http.join_eq_ok.mpr ⟨_, t, hauthority, hok, hread, ht, rfl⟩⟩

theorem validate_path (h : validate c = .ok ()) : c.healthCheck.path.startsWith "/" = true := by
  have hproblems := validate_eq_ok.mp h
  simp only [problems, settingProblems, List.append_eq_nil_iff] at hproblems
  have hpath := hproblems.2.1.2
  unfold require at hpath
  split at hpath
  · assumption
  · cases hpath

theorem ofConfig_fresh {a : Assembly} (h : Assembly.ofConfig c = .ok a) :
    ∃ limits, a.balancer =
      .fresh c.balancer.strategy a.balancer.backends limits c.healthCheck.path := by
  obtain ⟨_, _, h⟩ := Results.bind_eq_ok.mp h
  obtain ⟨_, _, h⟩ := Results.bind_eq_ok.mp h
  cases h
  exact ⟨_, rfl⟩

end Config

/-! ### Probes -/

namespace Call
variable {base : Url} {path : String}

/-- Without a target there is no exchange, and the same error with every network. -/
theorem probe_without_target (h : (Http.join base path).isOk = false) :
    ∃ e, ∀ limits net, probe limits net base path = (.error (.target e), ⟨0⟩) := by
  obtain ⟨e, hjoin⟩ := Results.isOk_eq_false_iff.mp h
  refine ⟨e, fun limits net => ?_⟩
  have hrequest : probeRequest base path = .error (.target e) := by
    rw [probeRequest, hjoin]
    rfl
  rw [probe, hrequest]

/-- A network in which every request is answered with success. -/
def answering : Network where
  exchange _ := ⟨.ok ⟨.ok, .empty, .empty⟩, ⟨1000⟩⟩
  listen := Network.listenLocally
  reachable := true

/-- With a target the probe goes out, and can succeed. -/
theorem probe_with_target (h : (Http.join base path).isOk = true) (limits : Limits) :
    Balancer.judgeProbe (probe limits answering base path).1 = .healthy := by
  obtain ⟨uri, hjoin⟩ := Results.isOk_iff.mp h
  have hrequest : ∃ r, probeRequest base path = .ok r := by
    rw [probeRequest, hjoin]
    exact ⟨_, rfl⟩
  obtain ⟨r, hr⟩ := hrequest
  rw [probe, hr]
  rfl

end Call

namespace Config
open Http.PathAndQuery (Readable)

variable {c : Config}

/-- **Probes go out exactly where the path and the host can be written into a target.** A
configuration that passes is built, and each of its backends can be given a target with the path to
probe, and can be found healthy, if and only if that path is readable and that host can be named. To
any other backend no probe goes out, whatever the network is like. An unreadable path leaves every
backend unhealthy after the first sweep. -/
theorem probeable_iff (h : validate c = .ok ()) :
    ∃ a, Assembly.ofConfig c = .ok a ∧ a.size = c.balancer.backends.length ∧
      a.balancer.probePath = c.healthCheck.path ∧
      (∀ i : Fin a.size,
        ((Http.join (a.balancer.backends.get i) c.healthCheck.path).isOk = true ↔
          Readable c.healthCheck.path ∧ Http.Sendable (a.balancer.backends.get i)) ∧
        ((∃ net, (a.balancer.probeOutcome net c.healthCheck.path i).health = .healthy) ↔
          Readable c.healthCheck.path ∧ Http.Sendable (a.balancer.backends.get i)) ∧
        (¬ (Readable c.healthCheck.path ∧ Http.Sendable (a.balancer.backends.get i)) →
          ∃ e, ∀ net, a.balancer.probe net c.healthCheck.path i = (.error (.target e), ⟨0⟩))) ∧
      (¬ Readable c.healthCheck.path → ∀ net i,
        ((a.balancer.sweep net).2.pool.standings.get i).health = .unhealthy) := by
  obtain ⟨a, hbuilds⟩ := Builds.of_validate h
  obtain ⟨limits, hfresh⟩ := ofConfig_fresh hbuilds.built
  have hpath : a.balancer.probePath = c.healthCheck.path := by rw [hfresh]; rfl
  have hjoin : ∀ i : Fin a.size,
      (Http.join (a.balancer.backends.get i) c.healthCheck.path).isOk = true ↔
        Readable c.healthCheck.path ∧ Http.Sendable (a.balancer.backends.get i) := by
    intro i
    obtain ⟨text, _, hu⟩ := hbuilds.entry i
    exact join_isOk_iff hu (validate_path h)
  have hfails : ∀ i : Fin a.size,
      ¬ (Readable c.healthCheck.path ∧ Http.Sendable (a.balancer.backends.get i)) →
        ∃ e, ∀ net, a.balancer.probe net c.healthCheck.path i = (.error (.target e), ⟨0⟩) := by
    intro i hno
    obtain ⟨e, he⟩ := Call.probe_without_target (Bool.eq_false_iff.mpr (mt (hjoin i).mp hno))
    exact ⟨e, fun net => he _ net⟩
  have hdown : ∀ i : Fin a.size,
      ¬ (Readable c.healthCheck.path ∧ Http.Sendable (a.balancer.backends.get i)) →
        ∀ net, (a.balancer.probeOutcome net c.healthCheck.path i).health = .unhealthy := by
    intro i hno net
    obtain ⟨e, he⟩ := hfails i hno
    rw [Balancer.probeOutcome, he net]
    rfl
  refine ⟨a, hbuilds.built, hbuilds.size_eq, hpath, fun i => ⟨hjoin i, ⟨?_, ?_⟩, hfails i⟩, ?_⟩
  · intro ⟨net, hup⟩
    refine Classical.byContradiction fun hno => ?_
    rw [hdown i hno net] at hup
    cases hup
  · intro hyes
    exact ⟨Call.answering, Call.probe_with_target ((hjoin i).mpr hyes) _⟩
  · intro hno net i
    have hasked : a.balancer.pool.asked.Perm (List.finRange a.size) := by
      rw [hfresh]
      exact Traffic.asked_ofStandings _ _
    have hcomes := (Pool.sweep_comesTo a.balancer.pool
      (a.balancer.probeOutcome net a.balancer.probePath)).perm hasked
    have hstanding := hcomes.recorded i (List.mem_finRange i)
    rw [hpath] at hstanding
    show ((a.balancer.pool.sweep _).2.standings.get i).health = _
    rw [hpath, hstanding]
    exact hdown i (fun hyes => hno hyes.1) net

/-- A query behind the path. -/
def queryInPath : Config :=
  { balancer := { backends := ["http://[::1]:8081", "http://[::1]:8082/ignored"] }
    healthCheck := { path := "/up?deep=1" } }

theorem probeable_with_query :
    ∃ a, Assembly.ofConfig queryInPath = .ok a ∧ a.size = 2 ∧
      ∀ i : Fin a.size, (Http.join (a.balancer.backends.get i) "/up?deep=1").isOk = true := by
  obtain ⟨a, hbuilt, hsize, _, hiff, _⟩ :=
    probeable_iff (c := queryInPath) (validate_eq_ok.mpr (by decide +kernel))
  have hhosts : ((Assembly.ofConfig queryInPath).toOption.map fun a =>
      a.balancer.backends.toList.map fun u => u.host?.map Url.Host.text) =
        some [some "[::1]", some "[::1]"] := by decide +kernel
  rw [hbuilt] at hhosts
  refine ⟨a, hbuilt, hsize, fun i => (hiff i).1.mpr ⟨⟨by decide +kernel, by decide +kernel⟩, ?_⟩⟩
  intro host hhost
  have hmem : some host.text ∈ [some "[::1]", some "[::1]"] := by
    rw [← Option.some.inj hhosts]
    refine List.mem_map.mpr ⟨a.balancer.backends.get i, by simp [Vector.get], ?_⟩
    rw [hhost]
    rfl
  have htext : host.text = "[::1]" := by simpa using hmem
  have hall : "[::1]".toList.all (fun c => !Url.Host.unsendable.contains c) = true := by
    decide +kernel
  rw [htext]
  simpa using hall

/-- A blank in the path. -/
def blankInPath : Config :=
  { balancer := { backends := ["http://[::1]:8081", "http://[::1]:8082"] }
    healthCheck := { path := "/a b" } }

/-- It passes, and no backend has a target to probe. -/
theorem blankInPath_unprobeable :
    validate blankInPath = .ok () ∧
      ((Assembly.ofConfig blankInPath).toOption.map fun a =>
        a.balancer.backends.toList.map fun u => (Http.join u blankInPath.healthCheck.path).isOk) =
          some [false, false] :=
  ⟨validate_eq_ok.mpr (by decide +kernel), by decide +kernel⟩

end Config
end Sluice
