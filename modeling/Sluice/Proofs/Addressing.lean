import Sluice.Http.Joining
import Sluice.Proofs.Acceptance
import Sluice.Proofs.Readings

/-! Which backends are one and the same to those who send requests.

A target names the host and the port to connect to; what else the URL of a backend holds is left
out. Validation compares whole URLs. So two backends that pass can be one server entered twice: they
are exactly where nothing but credentials, path, query or fragment tells their URLs apart. -/
namespace Sluice
open Results (Yields)

/-! ### Addresses -/

namespace Url
variable {u v : Url} {host : String} {port : Option UInt16}

/-- Where a URL leads: the host as it is written in a target, and the port to connect to. -/
def address (u : Url) : Option (String × Option UInt16) :=
  u.host?.map fun host => (host.text, u.effectivePort?)

/-- What a URL holds beside its scheme and address: credentials, path, query and fragment. -/
def remainder (u : Url) : Option String × String × Option String × Option String :=
  (u.authority.map (·.userinfo), u.path, u.query, u.fragment)

theorem exists_host (h : u.address = some (host, port)) :
    ∃ x, u.host? = some x ∧ x.text = host ∧ u.effectivePort? = port := by
  obtain ⟨x, hx, heq⟩ := Option.map_eq_some_iff.mp h
  cases heq
  exact ⟨x, hx, rfl, rfl⟩

theorem Authority.text_eq {a b : Authority} (huser : a.userinfo = b.userinfo)
    (hhost : a.host.map Host.text = b.host.map Host.text) (hport : a.port = b.port) :
    a.text = b.text := by
  rw [text, text, huser, hhost, hport]

/-- Nothing else makes the texts of two URLs differ. -/
theorem text_eq (hu : u.Canonical) (hv : v.Canonical) (hscheme : u.scheme = v.scheme)
    (hau : u.address = some (host, port)) (hav : v.address = some (host, port))
    (hrest : u.remainder = v.remainder) : u.text = v.text := by
  obtain ⟨x, hx, hxtext, hxport⟩ := exists_host hau
  obtain ⟨y, hy, hytext, hyport⟩ := exists_host hav
  obtain ⟨a, ha, hax⟩ := Option.bind_eq_some_iff.mp hx
  obtain ⟨b, hb, hby⟩ := Option.bind_eq_some_iff.mp hy
  have hport : u.port? = v.port? :=
    (effectivePort?_inj hu hv hscheme).mp (hxport.trans hyport.symm)
  obtain ⟨huser, hpath, hquery, hfragment⟩ :
      u.authority.map (·.userinfo) = v.authority.map (·.userinfo) ∧ u.path = v.path ∧
        u.query = v.query ∧ u.fragment = v.fragment := by
    simpa [remainder] using hrest
  have hauthority : a.text = b.text := by
    refine Authority.text_eq ?_ ?_ ?_
    · simpa [ha, hb] using huser
    · simp [hax, hby, hxtext, hytext]
    · simpa [port?, ha, hb] using hport
  rw [text, text, hscheme, ha, hb, hpath, hquery, hfragment]
  simp only [hauthority]

end Url

namespace Http
variable {u v : Url} {path : String} {target : Uri}

/-! ### Authorities -/

/-- The last separator is where two lists part that have none behind it. -/
theorem separator_inj {α : Type} {c : α} {as bs ds es : List α} (hd : c ∉ ds) (he : c ∉ es)
    (h : as ++ c :: ds = bs ++ c :: es) : as = bs ∧ ds = es := by
  rcases List.append_eq_append_iff.mp h with ⟨x, rfl, hx⟩ | ⟨x, rfl, hx⟩
  · cases x with
    | nil => simpa using hx
    | cons y x =>
      obtain ⟨_, rfl⟩ : c = y ∧ ds = x ++ c :: es := by simpa using hx
      simp at hd
  · cases x with
    | nil => simpa using hx.symm
    | cons y x =>
      obtain ⟨_, rfl⟩ : c = y ∧ es = x ++ c :: ds := by simpa using hx
      simp at he

/-- Host and port can be told from their text: behind the last colon stand digits. -/
theorem host_port_inj {a b : String} {m n : Nat}
    (h : a ++ ":" ++ toString m = b ++ ":" ++ toString n) : a = b ∧ m = n := by
  have hcolon : ∀ n, ':' ∉ Nat.toDigits 10 n := by
    intro n hmem
    have hdigit := Nat.isDigit_of_mem_toDigits (by decide) (by decide) hmem
    exact absurd hdigit (by decide)
  have hlists := congrArg String.toList h
  simp only [String.toList_append, List.append_assoc, Nat.toString_eq_repr,
    Nat.toList_repr] at hlists
  obtain ⟨hhost, hport⟩ := separator_inj (hcolon m) (hcolon n) hlists
  refine ⟨String.toList_inj.mp hhost, ?_⟩
  simpa using congrArg (fun digits => Nat.ofDigitChars 10 digits 0) hport

theorem authorityOf_eq {host : String} {port : UInt16} (h : u.address = some (host, some port)) :
    authorityOf u = .ok (host ++ ":" ++ toString port.toNat) := by
  obtain ⟨x, hx, rfl, hport⟩ := Url.exists_host h
  rw [authorityOf, hx, hport]

/-! ### Targets -/

theorem schemeOfString_same (s : String) : Yields (schemeOfString s) (· = s) := by
  unfold schemeOfString
  exact .ite .error (.ite (.ok rfl) .error)

theorem Authority.ofString_same (s : String) : Yields (ofString s) (· = s) := by
  unfold ofString
  extract_lets behind
  have hbehind : ∀ r, Yields (behind r) (· = s) :=
    fun r => .after fun ⟨_, rest⟩ => .ite (.ok rfl) .error
  exact .ite (.after hbehind) (hbehind ())

/-- What a target is made of. -/
theorem join_eq_ok : join u path = .ok target ↔ ∃ authority t,
    authorityOf u = .ok authority ∧ schemeOfString u.scheme = .ok u.scheme ∧
      Authority.ofString authority = .ok authority ∧
      PathAndQuery.ofString (rooted path) = .ok t ∧
      target = ⟨some u.scheme, some authority, t⟩ := by
  unfold join
  simp only [Results.bind_eq_ok, Results.mapError_eq_ok]
  constructor
  · rintro ⟨authority, hauthority, scheme, hscheme, _, hread, t, ht, htarget⟩
    obtain rfl := schemeOfString_same _ _ hscheme
    obtain rfl := Authority.ofString_same _ _ hread
    cases htarget
    exact ⟨_, t, hauthority, hscheme, hread, ht, rfl⟩
  · rintro ⟨authority, t, hauthority, hscheme, hread, ht, rfl⟩
    exact ⟨authority, hauthority, _, hscheme, _, hread, t, ht, rfl⟩

/-- Where a target can be made with any path, one can with the root. -/
theorem join_root_isOk (h : join u path = .ok target) : (join u "/").isOk = true := by
  obtain ⟨authority, _, hauthority, hscheme, hread, _, _⟩ := join_eq_ok.mp h
  have hroot : (PathAndQuery.ofString (rooted "/")).isOk = true := by decide +kernel
  obtain ⟨t, ht⟩ := Results.isOk_iff.mp hroot
  exact Results.isOk_iff.mpr
    ⟨_, join_eq_ok.mpr ⟨authority, t, hauthority, hscheme, hread, ht, rfl⟩⟩

/-- Two URLs give the same target exactly where they have the same address. -/
theorem join_eq_iff {a b : String} {p q : UInt16} (hscheme : u.scheme = v.scheme)
    (hu : u.address = some (a, some p)) (hv : v.address = some (b, some q))
    (h : join u path = .ok target) : join v path = .ok target ↔ u.address = v.address := by
  obtain ⟨authority, t, hau, hok, hread, ht, rfl⟩ := join_eq_ok.mp h
  obtain rfl : authority = a ++ ":" ++ toString p.toNat :=
    Except.ok.inj (hau.symm.trans (authorityOf_eq hu))
  have hav := authorityOf_eq hv
  constructor
  · intro hsame
    obtain ⟨authority, _, hauthority, _, _, _, heq⟩ := join_eq_ok.mp hsame
    obtain rfl : _ = authority := Option.some.inj (congrArg Uri.authority heq)
    obtain ⟨rfl, hport⟩ := host_port_inj (Except.ok.inj (hauthority.symm.trans hav))
    rw [hu, hv, UInt16.toNat_inj.mp hport]
  · intro hsame
    rw [hu, hv] at hsame
    cases hsame
    exact join_eq_ok.mpr ⟨_, t, hav, hscheme ▸ hok, hread, ht, by rw [hscheme]⟩

end Http

/-! ### Backends -/

namespace Config
variable {c : Config} {text : String} {u : Url}

theorem backendUrl_address (h : backendUrl text = .ok u) :
    u.scheme = "http" ∧ u.Canonical ∧ ∃ host port, u.address = some (host, some port) := by
  obtain ⟨hread, hscheme, x, hx⟩ := backendUrl_ok h
  refine ⟨hscheme, Url.ofString_canonical text u hread, x.text, u.port?.getD 80, ?_⟩
  have hport : u.effectivePort? = some (u.port?.getD 80) := by
    rw [Url.effectivePort?, hscheme]
    cases u.port? <;> rfl
  rw [Url.address, hx, hport]
  rfl

/-- **Targets are distinct exactly where addresses are.** A configuration that passes is built with
one backend for each entry. Its backends never get the same target, whatever the path, if and only
if no two that can get one share host and port. Backends that share them differ in credentials,
path, query or fragment, which validation compares and a target leaves out. -/
theorem targets_distinct_iff (h : validate c = .ok ()) :
    ∃ a, Assembly.ofConfig c = .ok a ∧ a.size = c.balancer.backends.length ∧
      ((∀ i j : Fin a.size, i ≠ j → ∀ path target,
          Http.join (a.balancer.backends.get i) path = .ok target →
          Http.join (a.balancer.backends.get j) path ≠ .ok target) ↔
        ∀ i j : Fin a.size, i ≠ j → (Http.join (a.balancer.backends.get i) "/").isOk = true →
          (a.balancer.backends.get i).address ≠ (a.balancer.backends.get j).address) ∧
      ∀ i j : Fin a.size, i ≠ j →
        (a.balancer.backends.get i).address = (a.balancer.backends.get j).address →
        (a.balancer.backends.get i).remainder ≠ (a.balancer.backends.get j).remainder := by
  obtain ⟨a, hbuilds⟩ := Builds.of_validate h
  have hbackend : ∀ i : Fin a.size, (a.balancer.backends.get i).scheme = "http" ∧
      (a.balancer.backends.get i).Canonical ∧
      ∃ host port, (a.balancer.backends.get i).address = some (host, some port) := by
    intro i
    obtain ⟨text, _, hread⟩ := hbuilds.entry i
    exact backendUrl_address hread
  have hjoin : ∀ (i j : Fin a.size) path target,
      Http.join (a.balancer.backends.get i) path = .ok target →
      (Http.join (a.balancer.backends.get j) path = .ok target ↔
        (a.balancer.backends.get i).address = (a.balancer.backends.get j).address) := by
    intro i j path target htarget
    obtain ⟨hi, _, _, _, haddress⟩ := hbackend i
    obtain ⟨hj, _, _, _, haddress'⟩ := hbackend j
    exact Http.join_eq_iff (hi.trans hj.symm) haddress haddress' htarget
  refine ⟨a, hbuilds.built, hbuilds.size_eq, ⟨fun hdistinct i j hij hok => ?_, ?_⟩, ?_⟩
  · obtain ⟨target, htarget⟩ := Results.isOk_iff.mp hok
    rw [Ne, ← hjoin i j "/" target htarget]
    exact hdistinct i j hij "/" target htarget
  · intro hapart i j hij path target htarget
    rw [Ne, hjoin i j path target htarget]
    exact hapart i j hij (Http.join_root_isOk htarget)
  · intro i j hij hsame hrest
    obtain ⟨hi, hcanonical, _, _, haddress⟩ := hbackend i
    obtain ⟨hj, hcanonical', _⟩ := hbackend j
    exact hbuilds.text_ne hij (Url.text_eq hcanonical hcanonical' (hi.trans hj.symm) haddress
      (hsame ▸ haddress) hrest)

/-- Two servers on one host. -/
def portsApart : Config :=
  { balancer := { backends := ["http://[::1]:8081/", "http://[::1]:8082/"] } }

theorem targets_distinct_of_ports :
    ∃ a, Assembly.ofConfig portsApart = .ok a ∧ a.size = 2 ∧
      ∀ i j : Fin a.size, i ≠ j → ∀ path target,
        Http.join (a.balancer.backends.get i) path = .ok target →
        Http.join (a.balancer.backends.get j) path ≠ .ok target := by
  obtain ⟨a, hbuilt, hsize, hiff, _⟩ :=
    targets_distinct_iff (c := portsApart) (validate_eq_ok.mpr (by decide +kernel))
  have haddresses : ((Assembly.ofConfig portsApart).toOption.map fun a =>
      a.balancer.backends.toList.map Url.address) =
        some [some ("[::1]", some 8081), some ("[::1]", some 8082)] := by decide +kernel
  rw [hbuilt] at haddresses
  have hapart : a.balancer.backends.toList.Pairwise fun u v => u.address ≠ v.address := by
    refine List.pairwise_map.mp (?_ : (a.balancer.backends.toList.map Url.address).Nodup)
    rw [show a.balancer.backends.toList.map Url.address = _ from Option.some.inj haddresses]
    decide
  exact ⟨a, hbuilt, hsize, hiff.mpr fun i j hij _ => ne_of_pairwise Url.address hapart hij⟩

/-- One server, entered with two paths. -/
def pathsApart : Config :=
  { balancer := { backends := ["http://[::1]:8081/a", "http://[::1]:8081/b"] } }

/-- It passes, and both backends are given one target. -/
theorem pathsApart_same_target :
    validate pathsApart = .ok () ∧
      ((Assembly.ofConfig pathsApart).toOption.map fun a =>
        a.balancer.backends.toList.map fun u => (Http.join u "/").toOption) =
          some (List.replicate 2 (some ⟨some "http", some "[::1]:8081", ⟨"/"⟩⟩)) :=
  ⟨validate_eq_ok.mpr (by decide +kernel), by decide +kernel⟩

end Config
end Sluice
