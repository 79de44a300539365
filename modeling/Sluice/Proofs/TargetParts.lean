import Sluice.Proofs.Forwarding

/-! What a target is made of, and what it is not.

Two sides meet in a target: a URL gives the scheme, the host and the port, and a text gives the path
and the query. Each side is read on its own, and neither can reach into the other. So two URLs that
differ in nothing else are given the same targets, and turned down for the same reasons, though one
without a host is quoted where it is turned down. And a path that has been read once, rooted and
without its fragment, is read again as it is, whatever URL it is joined to next. -/
namespace Sluice.Http
open Call (authorityText)

variable {u v : Url} {path : String} {t : PathAndQuery} {target : Uri}

/-! ### The side of the path -/

theorem rooted_toList (s : String) : (rooted s).toList =
    if s.toList.head? = some '/' then s.toList else '/' :: s.toList := by
  unfold rooted
  by_cases h : s.startsWith "/" = true
  · rw [if_pos h, if_pos (startsWith_slash_iff_head?.mp h)]
  · rw [if_neg h, if_neg (mt startsWith_slash_iff_head?.mpr h), String.toList_append]
    rfl

theorem exists_rooted (s : String) : ∃ rest, (rooted s).toList = '/' :: rest := by
  rw [rooted_toList]
  split
  · next h => exact List.head?_eq_some_iff.mp h
  · exact ⟨_, rfl⟩

namespace PathAndQuery

/-- What is cut off begins with the first sign of a fragment, if there is one. -/
theorem exists_cut (cs : List Char) : ∃ rest, cs = beforeFragment cs ++ rest ∧
    '#' ∉ beforeFragment cs ∧ (rest = [] ∨ rest.head? = some '#') := by
  refine ⟨cs.dropWhile (· ≠ '#'), List.takeWhile_append_dropWhile.symm, ?_, ?_⟩
  · intro hmem
    simpa using List.mem_takeWhile_imp hmem
  · have hfirst := List.head?_dropWhile_not (· ≠ '#') cs
    generalize cs.dropWhile (· ≠ '#') = back at hfirst ⊢
    cases back with
    | nil => exact .inl rfl
    | cons c _ => exact .inr (by simpa using hfirst)

theorem text_of_ofString {s : String} (h : ofString s = .ok t) :
    t.text.toList = beforeFragment s.toList := by
  obtain ⟨_, _, rfl⟩ := ofString_eq_ok.mp h
  exact String.toList_ofList

/-- It stays rooted. -/
theorem exists_text (h : ofString (rooted path) = .ok t) : ∃ rest, t.text.toList = '/' :: rest := by
  obtain ⟨rest, hrest⟩ := exists_rooted path
  rw [text_of_ofString h, hrest]
  exact ⟨beforeFragment rest, by simp [beforeFragment]⟩

/-- A path that was read is read again as it is. -/
theorem ofString_again (h : ofString (rooted path) = .ok t) : ofString (rooted t.text) = .ok t := by
  obtain ⟨_, hrooted⟩ := exists_rooted path
  obtain ⟨_, htext⟩ := exists_text h
  have hpassable := ofString_passable_of_slash hrooted t h
  rw [hpassable.ofString, rooted_of_slash htext]

end PathAndQuery

theorem pathAndQuery_of_join (h : join u path = .ok target) :
    target.pathAndQuery = target.target.text ∧
      PathAndQuery.ofString (rooted path) = .ok target.target := by
  obtain ⟨_, t, _, _, _, ht, rfl⟩ := join_eq_ok.mp h
  obtain ⟨_, htext⟩ := PathAndQuery.exists_text ht
  refine ⟨if_neg fun hempty => ?_, ht⟩
  rw [String.isEmpty_iff.mp hempty] at htext
  cases htext

/-! ### The side of the URL -/

/-- An authority is made of an address, and of nothing else. -/
theorem authorityOf_address (u : Url) : authorityOf u =
    match u.address with
    | some (host, port) => .ok (authorityText host port)
    | none => .error (.noHost u.text) := by
  unfold authorityOf Url.address
  cases u.host? <;> cases u.effectivePort? <;> rfl

theorem authorityOf_eq_ok_iff {authority : String} : authorityOf u = .ok authority ↔
    ∃ host port, u.address = some (host, port) ∧ authority = authorityText host port := by
  rw [authorityOf_address]
  rcases u.address with _ | ⟨host, port⟩
  · simp
  · constructor
    · intro h
      exact ⟨host, port, rfl, (Except.ok.inj h).symm⟩
    · rintro ⟨_, _, ⟨⟩, rfl⟩
      rfl

theorem join_congr (hscheme : v.scheme = u.scheme) (hauthority : authorityOf v = authorityOf u)
    (path : String) : join v path = join u path := by
  rw [join, join, hscheme, hauthority]

theorem join_of_no_address (h : u.address = none) (path : String) :
    join u path = .error (.noHost u.text) := by
  rw [join, authorityOf_address, h]
  rfl

/-! ### Both sides -/

/-- Each side is read on its own. -/
theorem join_isOk_iff : (join u path).isOk = true ↔
    ∃ host port, u.address = some (host, port) ∧ (schemeOfString u.scheme).isOk = true ∧
      (Authority.ofString (authorityText host port)).isOk = true ∧
      (PathAndQuery.ofString (rooted path)).isOk = true := by
  simp only [Results.isOk_iff]
  constructor
  · rintro ⟨target, h⟩
    obtain ⟨authority, t, hauthority, hscheme, hread, ht, _⟩ := join_eq_ok.mp h
    obtain ⟨host, port, haddress, rfl⟩ := authorityOf_eq_ok_iff.mp hauthority
    exact ⟨host, port, haddress, ⟨_, hscheme⟩, ⟨_, hread⟩, ⟨t, ht⟩⟩
  · rintro ⟨host, port, haddress, ⟨scheme, hscheme⟩, ⟨authority, hread⟩, ⟨t, ht⟩⟩
    obtain rfl := schemeOfString_same _ _ hscheme
    obtain rfl := Authority.ofString_same _ _ hread
    have hauthority := authorityOf_eq_ok_iff.mpr ⟨host, port, haddress, rfl⟩
    exact ⟨_, join_eq_ok.mpr ⟨_, t, hauthority, hscheme, hread, ht, rfl⟩⟩

/-- **A target is decided by scheme, address and path.** It can be made where each of the three is
accepted. It has the scheme and the address of the URL, and the path as it was given, behind a slash
and up to the first sign of a fragment. Joined again, to whatever URL, that path is the same; it
stands in the way of a target as little as the root does. Any other URL of the same scheme and
address is given the same target or turned down with the same error, unless there is no host, where
the error quotes the one or the other. -/
theorem join_by_address (u : Url) (path : String) :
    ((join u path).isOk = true ↔
      ∃ host port, u.address = some (host, port) ∧ (schemeOfString u.scheme).isOk = true ∧
        (Authority.ofString (authorityText host port)).isOk = true ∧
        (PathAndQuery.ofString (rooted path)).isOk = true) ∧
    (∀ target, join u path = .ok target →
      (∃ host port, u.address = some (host, port) ∧ target.scheme = some u.scheme ∧
        target.authority = some (authorityText host port)) ∧
      (∃ rest, (if path.toList.head? = some '/' then path.toList else '/' :: path.toList) =
          target.pathAndQuery.toList ++ rest ∧
        '#' ∉ target.pathAndQuery.toList ∧ (rest = [] ∨ rest.head? = some '#')) ∧
      ∀ v, (join v target.pathAndQuery).isOk = (join v "/").isOk ∧
        ∀ target', join v target.pathAndQuery = .ok target' →
          target'.pathAndQuery = target.pathAndQuery) ∧
    ∀ v : Url, v.scheme = u.scheme → v.address = u.address →
      (u.address ≠ none → join v path = join u path) ∧
      (u.address = none →
        join u path = .error (.noHost u.text) ∧ join v path = .error (.noHost v.text)) := by
  refine ⟨join_isOk_iff, fun target h => ⟨?_, ?_, fun v => ⟨?_, fun target' h' => ?_⟩⟩, ?_⟩
  · obtain ⟨authority, _, hauthority, _, _, _, rfl⟩ := join_eq_ok.mp h
    obtain ⟨host, port, haddress, rfl⟩ := authorityOf_eq_ok_iff.mp hauthority
    exact ⟨host, port, haddress, rfl, rfl⟩
  · obtain ⟨hpath, hread⟩ := pathAndQuery_of_join h
    rw [hpath, PathAndQuery.text_of_ofString hread, ← rooted_toList]
    exact PathAndQuery.exists_cut _
  · obtain ⟨hpath, hread⟩ := pathAndQuery_of_join h
    have hagain := PathAndQuery.ofString_again hread
    have hroot : (PathAndQuery.ofString (rooted "/")).isOk = true := by decide +kernel
    rw [Bool.eq_iff_iff, join_isOk_iff, join_isOk_iff, hpath, hagain, hroot]
    rfl
  · obtain ⟨hpath, hread⟩ := pathAndQuery_of_join h
    obtain ⟨hpath', hread'⟩ := pathAndQuery_of_join h'
    rw [hpath, PathAndQuery.ofString_again hread] at hread'
    rw [hpath, hpath', Except.ok.inj hread']
  · intro v hscheme haddress
    refine ⟨fun hhost => ?_, fun hnone => ?_⟩
    · obtain ⟨⟨host, port⟩, hu⟩ := Option.ne_none_iff_exists'.mp hhost
      refine join_congr hscheme ?_ path
      rw [authorityOf_address, authorityOf_address, haddress, hu]
    · exact ⟨join_of_no_address hnone path, join_of_no_address (haddress.trans hnone) path⟩

/-- A path that looks like an authority, with a query and a fragment behind it. -/
theorem join_by_address_past_slashes :
    let host : Url.Host := .v6 .loopback
    let u : Url := ⟨"ftp", some ⟨"", none, some host, none⟩, "/", none, none⟩
    let v : Url := ⟨"ftp", some ⟨"a", some "b", some host, some 21⟩, "/c", some "d", some "e"⟩
    ∃ target, join u "//x@y:1?q#f#g" = .ok target ∧ join v "//x@y:1?q#f#g" = .ok target ∧
      target.authority = some "[::1]:21" ∧ target.pathAndQuery = "//x@y:1?q" ∧
      (join v target.pathAndQuery).isOk = true := by
  intro host u v
  obtain ⟨hok, hmade, hsame⟩ := join_by_address u "//x@y:1?q#f#g"
  have haddress : u.address = some ("[::1]", some 21) := by decide +kernel
  obtain ⟨target, htarget⟩ := Results.isOk_iff.mp (hok.mpr
    ⟨_, _, haddress, by decide +kernel, by decide +kernel, by decide +kernel⟩)
  obtain ⟨⟨_, _, hplace, _, hauthority⟩, _, hagain⟩ := hmade target htarget
  rw [haddress] at hplace
  cases hplace
  have hother := (hsame v rfl (by decide +kernel)).1 (by rw [haddress]; nofun)
  have hpath : (join u "//x@y:1?q#f#g").toOption.map Uri.pathAndQuery = some "//x@y:1?q" := by
    decide +kernel
  rw [htarget] at hpath
  refine ⟨target, htarget, hother.trans htarget, hauthority.trans (by decide +kernel),
    Option.some.inj hpath, ?_⟩
  rw [(hagain v).1]
  decide +kernel

end Sluice.Http
