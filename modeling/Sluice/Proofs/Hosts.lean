import Sluice.Proofs.Authorities
import Sluice.Proofs.HostNames
import Sluice.Url.Reading

/-! Hosts that can be named in an authority.

The hosts of URLs are read by one grammar and written into authorities of another. Addresses are at
home in both. A name is ASCII and free of what URLs forbid; of what is left, four characters may
not stand in an authority. -/
namespace Sluice

/-! ### Texts of addresses -/

namespace Net
open Http.Authority (isAuthorityChar)

theorem Ipv4.text_chars (a : Ipv4) : ∀ c ∈ a.text.toList, isAuthorityChar c = true := by
  intro c hc
  rw [text, String.toList_intercalate] at hc
  rcases Idna.mem_intercalate hc with hdot | ⟨part, hpart, hc⟩
  · obtain rfl := List.mem_singleton.mp hdot
    decide
  · simp only [List.mem_map] at hpart
    obtain ⟨_, ⟨o, _, rfl⟩, rfl⟩ := hpart
    exact Http.Authority.digits_chars _ c hc

namespace Ipv6

theorem hex_chars (n : Nat) : ∀ c ∈ Text.hex n, isAuthorityChar c = true := by
  have hdigit : ∀ d < 16, isAuthorityChar d.digitChar = true := by decide
  induction n using Nat.strongRecOn with
  | _ n ih =>
    intro c hc
    rw [Text.hex, Nat.toDigits_eq_if (by decide)] at hc
    split at hc
    · next hlt =>
      obtain rfl := List.mem_singleton.mp hc
      exact hdigit n hlt
    · next hge =>
      rcases List.mem_append.mp hc with hc | hc
      · exact ih (n / 16) (by omega) c hc
      · obtain rfl := List.mem_singleton.mp hc
        exact hdigit _ (Nat.mod_lt _ (by decide))

variable {gs : List UInt16}

theorem joinGroups_toList (gs : List UInt16) :
    (joinGroups gs).toList = [':'].intercalate (gs.map fun g => Text.hex g.toNat) := by
  rw [joinGroups, String.toList_intercalate, List.map_map]
  congr 1
  exact List.map_congr_left fun g _ => String.toList_ofList

theorem joinGroups_chars (gs : List UInt16) :
    ∀ c ∈ (joinGroups gs).toList, isAuthorityChar c = true ∨ c = ':' := by
  intro c hc
  rw [joinGroups_toList] at hc
  rcases Idna.mem_intercalate hc with hcolon | ⟨part, hpart, hc⟩
  · exact .inr (List.mem_singleton.mp hcolon)
  · obtain ⟨g, _, rfl⟩ := List.mem_map.mp hpart
    exact .inl (hex_chars _ c hc)

/-- One colon less than groups. -/
theorem joinGroups_colons (gs : List UInt16) :
    (joinGroups gs).toList.count ':' = gs.length - 1 := by
  rw [joinGroups_toList]
  induction gs with
  | nil => rfl
  | cons g rest ih =>
    have hnone := Http.Authority.count_colon (hex_chars g.toNat)
    cases rest with
    | nil => simpa using hnone
    | cons next rest =>
      rw [List.map_cons, List.map_cons, List.intercalate_cons_cons, List.count_append,
        List.count_append, hnone]
      rw [List.map_cons] at ih
      rw [ih]
      simp
      omega

theorem length_zeroRuns (gs : List UInt16) : (zeroRuns gs).length = gs.length := by
  induction gs with
  | nil => rfl
  | cons g rest ih => simp [zeroRuns, ih]

theorem foldl_max_mem (runs : List Nat) (n : Nat) :
    runs.foldl max n = n ∨ runs.foldl max n ∈ runs := by
  induction runs generalizing n with
  | nil => exact .inl rfl
  | cons m rest ih =>
    rw [List.foldl_cons]
    rcases ih (max n m) with heq | hmem
    · rw [heq]
      rcases Nat.le_total n m with hle | hle
      · rw [Nat.max_eq_right hle]
        exact .inr List.mem_cons_self
      · exact .inl (Nat.max_eq_left hle)
    · exact .inr (List.mem_cons_of_mem _ hmem)

/-- The run to shorten begins within the address and has at least two groups. -/
theorem gap?_bounds {start length : Nat} (h : gap? gs = some (start, length)) :
    start < gs.length ∧ 2 ≤ length := by
  unfold gap? at h
  extract_lets runs longest at h
  split at h
  · cases h
  · next hlong =>
    obtain ⟨hstart, hlength⟩ := Prod.mk.inj (Option.some.inj h)
    have hmem : longest ∈ runs := by
      refine (foldl_max_mem runs 0).resolve_left fun hzero => hlong ?_
      show runs.foldl max 0 < 2
      omega
    rw [← hstart, ← hlength, ← length_zeroRuns gs]
    refine ⟨?_, Nat.le_of_not_lt hlong⟩
    exact List.findIdx_lt_length_of_exists ⟨longest, hmem, by simp⟩

theorem text_chars (a : Ipv6) : ∀ c ∈ a.text.toList, isAuthorityChar c = true ∨ c = ':' := by
  unfold text
  extract_lets gs
  split
  · exact joinGroups_chars gs
  · intro c hc
    simp only [String.toList_append, List.mem_append] at hc
    rcases hc with (hc | hc) | hc
    · exact joinGroups_chars _ c hc
    · exact .inr (by simpa using hc)
    · exact joinGroups_chars _ c hc

theorem text_colons (a : Ipv6) : a.text.toList.count ':' ≤ Http.Authority.maxColons := by
  have hmax : Http.Authority.maxColons = 8 := rfl
  unfold text
  extract_lets gs
  have hsize : gs.length = 8 := by simp [gs]
  split
  · rw [joinGroups_colons]
    omega
  · next start length hgap =>
    obtain ⟨hstart, hlength⟩ := gap?_bounds hgap
    have htwo : "::".toList.count ':' = 2 := by decide
    rw [String.toList_append, String.toList_append, List.count_append, List.count_append,
      joinGroups_colons, joinGroups_colons, htwo, List.length_take, List.length_drop]
    omega

end Ipv6
end Net

/-! ### Hosts of the web -/

namespace Url.Host
open Http.Authority (isAuthorityChar isSign)

variable {s : List Char} {host : Host} {c : Char}

/-- The characters that stand in names, but in no authority. -/
def unsendable : List Char :=
  "\"\x60\x7b\x7d".toList

theorem forbidden_plain (hc : Idna.isPlain c = true) : forbidden c = false := by
  have hall : ∀ n < 128, Idna.isPlain (Char.ofNat n) = true → forbidden (Char.ofNat n) = false := by
    decide
  exact Idna.forall_ascii (P := fun c => Idna.isPlain c = true → forbidden c = false) hall
    (Idna.ascii_of_isPlain hc) hc

/-- A host that is read is an address, or a name in ASCII without what is forbidden. -/
theorem ofChars_cases (h : ofChars s = .ok host) : (∃ a, host = .v4 a) ∨ (∃ a, host = .v6 a) ∨
    ∃ text, host = .name text ∧ ∀ c ∈ text.toList, c.toNat < 128 ∧ forbidden c = false := by
  unfold ofChars at h
  split at h
  · unfold bracketed at h
    split at h
    · cases h
      exact .inr (.inl ⟨_, rfl⟩)
    · cases h
  · split at h
    · cases h
    · next ascii hname =>
      obtain ⟨decoded, _, hascii⟩ := Option.bind_eq_some_iff.mp hname
      split at h
      · cases h
      · split at h
        · split at h
          · cases h
            exact .inl ⟨_, rfl⟩
          · cases h
        · cases h
          exact .inr (.inr ⟨ascii, rfl, Idna.toAscii?_mem (fun _ => forbidden_plain) hascii⟩)

theorem isAuthorityChar_or_unsendable (hlt : c.toNat < 128) (hallowed : forbidden c = false) :
    isAuthorityChar c = true ∨ c ∈ unsendable := by
  have hall : ∀ n < 128, forbidden (Char.ofNat n) = false →
      isAuthorityChar (Char.ofNat n) = true ∨ Char.ofNat n ∈ unsendable := by
    decide
  exact Idna.forall_ascii
    (P := fun c => forbidden c = false → isAuthorityChar c = true ∨ c ∈ unsendable)
    hall hlt hallowed

theorem illegal_of_unsendable (h : c ∈ unsendable) :
    ¬ (isAuthorityChar c = true ∨ isSign c = true) := by
  have hall : unsendable.all (fun c => !(isAuthorityChar c || isSign c)) = true := by decide
  simpa using List.all_eq_true.mp hall c h

/-- A host can be named with a port exactly if it holds none of those. -/
theorem ofString_port_iff (h : ofChars s = .ok host) (n : Nat) :
    Http.Authority.ofString (host.text ++ ":" ++ toString n) =
        .ok (host.text ++ ":" ++ toString n) ↔
      ∀ c ∈ host.text.toList, c ∉ unsendable := by
  constructor
  · intro hread c hc hbad
    refine illegal_of_unsendable hbad (Http.Authority.legal_of_ofString hread c ?_)
    simp only [String.toList_append, List.mem_append]
    exact .inl (.inl hc)
  · intro hsendable
    rcases ofChars_cases h with ⟨a, rfl⟩ | ⟨a, rfl⟩ | ⟨text, rfl, htext⟩
    · exact Http.Authority.ofString_port (Http.Authority.scan_plain a.text_chars) n
    · have hlist : (Host.text (.v6 a)).toList = '[' :: (a.text.toList ++ [']']) := by
        simp [Host.text, String.toList_append]
      have hscan := Http.Authority.scan_bracketed a.text_chars a.text_colons
      rw [← hlist] at hscan
      exact Http.Authority.ofString_port hscan n
    · refine Http.Authority.ofString_port (Http.Authority.scan_plain fun c hc => ?_) n
      obtain ⟨hlt, hallowed⟩ := htext c hc
      exact (isAuthorityChar_or_unsendable hlt hallowed).resolve_right (hsendable c hc)

end Url.Host

/-! ### Hosts of whole URLs -/

namespace Url
open Results (Yields)

variable {kind : Kind} {scheme : String} {s : List Char} {u : Url} {host? : Option Host}

/-- The host, if there is one, is read as those of the web are. -/
def ReadOnWeb (host? : Option Host) : Prop :=
  ∀ host, host? = some host → ∃ s, Host.ofChars s = .ok host

/-- There is a host, and it is read as those of the web are. -/
def Hosted (host? : Option Host) : Prop :=
  ∃ host s, host? = some host ∧ Host.ofChars s = .ok host

theorem ofChars_hosted : Yields ((Host.ofChars s).map some) Hosted := by
  cases hs : Host.ofChars s with
  | error e => exact .error
  | ok host => exact .ok ⟨host, s, rfl, hs⟩

theorem readHost_hosted (hkind : kind ≠ .other) :
    Yields (readHost kind scheme s) fun r => Hosted r.1 := by
  unfold readHost
  extract_lets place length behind
  have hbehind : ∀ host?, Hosted host? → Yields (behind host?) fun r => Hosted r.1 := by
    intro host? hhosted
    dsimp only [behind]
    split
    · exact .ite .error (.after fun _ => .ok hhosted)
    · exact .ok hhosted
  rw [if_neg hkind]
  exact .ite (.bind (P := Hosted) .error hbehind) (.bind ofChars_hosted hbehind)

theorem readAuthority_hosted (hkind : kind ≠ .other) :
    Yields (readAuthority kind scheme s) fun r => Hosted r.1.host := by
  unfold readAuthority
  extract_lets front
  split
  extract_lets behind
  have hbehind : ∀ r, Yields (behind r) fun r => Hosted r.1.host := by
    intro r
    refine .bind (readHost_hosted hkind) fun ⟨host, port, rest⟩ hhosted => ?_
    exact .ite (.after fun _ => .ok hhosted) (.ok hhosted)
  exact .ite (.after hbehind) (hbehind ())

/-! ### Paths beside hosts -/

theorem addSegments_drive (hkind : kind ≠ .file) (r : Path.Reading) (segments : List (List Char)) :
    (Path.addSegments kind r segments).drive = r.drive := by
  have hone : ∀ slash r s, (Path.addSegment kind slash r s).drive = r.drive := by
    intro slash r s
    unfold Path.addSegment
    extract_lets segment mark
    split
    · rfl
    · split
      · rfl
      · rw [if_neg (by simp [hkind])]
  fun_induction Path.addSegments kind r segments with
  | case1 => rfl
  | case2 => exact hone ..
  | case3 r s rest _ ih => exact ih.trans (hone ..)

/-- Only in the scheme of files can a path displace the host. -/
theorem withPath_host? (hkind : kind ≠ .file) (u : Url) (s : List Char) :
    (withPath kind u s).host? = u.host? := by
  unfold withPath
  split
  · rfl
  · extract_lets behindRoot
    split
    next reading rest hread =>
      have hdrive : reading.drive = false := by
        rw [← congrArg (·.1.drive) hread]
        exact addSegments_drive hkind _ _
      simp [hdrive, withQuery, host?]

theorem withPath_scheme (kind : Kind) (u : Url) (s : List Char) :
    (withPath kind u s).scheme = u.scheme := by
  unfold withPath
  split
  · rfl
  · extract_lets behindRoot
    split
    next reading _ _ => cases hdrive : reading.drive <;> rfl

theorem ofFileText_scheme : Yields (ofFileText s) fun u => u.scheme = "file" := by
  unfold ofFileText
  extract_lets behind
  have hbehind : ∀ r, Yields (behind r) fun u => u.scheme = "file" :=
    fun ⟨host, rest⟩ => .ok (withPath_scheme _ _ _)
  split
  · exact .ite (.after hbehind) (.after hbehind)
  · exact .after hbehind

/-! ### The scheme `http` -/

/-- A URL of this scheme always has a host. -/
theorem ofString_hosted (text : String) :
    Yields (ofString text) fun u => u.scheme = "http" → Hosted u.host? := by
  have hother : ∀ {u : Url} {scheme}, Kind.ofScheme scheme = .other → u.scheme = scheme →
      u.scheme = "http" → Hosted u.host? := by
    rintro u _ hkind rfl hhttp
    rw [hhttp] at hkind
    cases hkind
  unfold ofString
  split
  · exact .error
  · next scheme rest _ =>
    extract_lets behind
    have hweb : ∀ s, Kind.ofScheme scheme = .web →
        Yields (behind s) fun u => u.scheme = "http" → Hosted u.host? := by
      intro s hkind
      dsimp only [behind]
      rw [hkind]
      refine .bind (readAuthority_hosted nofun) fun ⟨a, rest⟩ hhosted => .ok fun _ => ?_
      rw [withPath_host? (nofun : Kind.web ≠ .file)]
      exact hhosted
    have hbeside : ∀ s, Kind.ofScheme scheme = .other →
        Yields (behind s) fun u => u.scheme = "http" → Hosted u.host? := fun s hkind =>
      .after fun ⟨a, rest⟩ => .ok (hother hkind (withPath_scheme _ _ _))
    split
    · exact fun u hu hhttp => absurd (hhttp.symm.trans (ofFileText_scheme u hu)) (by decide)
    · next hkind _ => exact hweb _ hkind
    · next hkind _ => exact hbeside _ hkind
    · next hkind _ => exact .ok (hother hkind (withPath_scheme _ _ _))
    · next hkind _ _ _ => exact .ok (hother hkind rfl)

theorem ofString_web (text : String) :
    Yields (ofString text) fun u => u.scheme = "http" → ReadOnWeb u.host? := by
  intro u hu hhttp host hhost
  obtain ⟨host', s, hhost', hs⟩ := ofString_hosted text u hu hhttp
  obtain rfl := Option.some.inj (hhost.symm.trans hhost')
  exact ⟨s, hs⟩

end Url
end Sluice
