import Mathlib.Data.Finset.Card
import Sluice.Proofs.Acceptance
import Sluice.Proofs.Hosts
import Sluice.Proofs.Targets

/-! What validation finds, and that the order of the backends does not matter to it.

The search carries the URLs accepted so far, and compares each entry to those. But an entry that is
left out for reading like an earlier one adds nothing to compare with, and one without a URL adds
nothing either; so every verdict is one on the entries before (`verdict`). Other entries have no
part in what is wrong with an entry by itself, and among those that have a URL, one of each kind is
accepted and the rest are duplicates, whichever comes first. So the number of problems of each kind
is the same in any order. -/
namespace Sluice.Config

variable {c : Config} {text : String} {texts texts' earlier : List String} {u : Url}
  {seen : List Url} {p : Problem}

/-! ### One entry -/

/-- What is wrong with an entry by itself. -/
def ownProblem? (text : String) : Option Problem :=
  match Url.ofString text with
  | .error e => some (.malformedBackend text e.message)
  | .ok u => if u.scheme = "http" then none else some (.unsupportedScheme text)

/-- How the URL of an entry reads, if nothing is wrong with it. -/
def reading? (text : String) : Option String :=
  match Url.ofString text with
  | .error _ => none
  | .ok u => if u.scheme = "http" then some u.text else none

/-- What is wrong with an entry behind others: what is wrong by itself, or else that one of them
reads the same. -/
def verdict (earlier : List String) (text : String) : Option Problem :=
  (ownProblem? text).or
    (if reading? text ∈ earlier.map reading? then some (.duplicateBackend text) else none)

/-- No HTTP URL is without a host, so its scheme is all there is to check. -/
theorem backendUrl_eq_ok :
    backendUrl text = .ok u ↔ Url.ofString text = .ok u ∧ u.scheme = "http" := by
  constructor
  · intro h
    obtain ⟨hread, hscheme, _⟩ := backendUrl_ok h
    exact ⟨hread, hscheme⟩
  · rintro ⟨hread, hscheme⟩
    obtain ⟨host, _, hhost, _⟩ := Url.ofString_hosted text u hread hscheme
    rw [backendUrl, hread]
    simp [hscheme, hhost]

theorem backendUrl_eq_error : backendUrl text = .error p ↔ ownProblem? text = some p := by
  unfold backendUrl ownProblem?
  cases hread : Url.ofString text with
  | error e => simp
  | ok u =>
    by_cases hscheme : u.scheme = "http"
    · obtain ⟨host, _, hhost, _⟩ := Url.ofString_hosted text u hread hscheme
      simp [hscheme, hhost]
    · simp [hscheme]

theorem reading?_of_ok (h : backendUrl text = .ok u) : reading? text = some u.text := by
  obtain ⟨hread, hscheme⟩ := backendUrl_eq_ok.mp h
  simp [reading?, hread, hscheme]

theorem reading?_of_error (h : backendUrl text = .error p) : reading? text = none := by
  unfold reading?
  split
  · rfl
  · next u hread =>
    refine if_neg fun hscheme => ?_
    rw [backendUrl_eq_ok.mpr ⟨hread, hscheme⟩] at h
    cases h

theorem ownProblem?_of_ok (h : backendUrl text = .ok u) : ownProblem? text = none := by
  refine Option.eq_none_iff_forall_not_mem.mpr fun p hp => ?_
  rw [backendUrl_eq_error.mpr hp] at h
  cases h

theorem kind_of_own (h : ownProblem? text = some p) : p.kind ≠ "DuplicateBackend" := by
  unfold ownProblem? at h
  split at h
  · cases h
    simp [Problem.kind]
  · split at h
    · cases h
    · cases h
      simp [Problem.kind]

/-! ### All entries -/

theorem any_sameUrl : seen.any (sameUrl u) = true ↔ u.text ∈ seen.map Url.text := by
  simp only [sameUrl, List.any_eq_true, decide_eq_true_eq, List.mem_map]
  exact exists_congr fun v => and_congr_right fun _ => eq_comm

/-- As long as the URLs accepted read like the entries before, every entry gets its verdict. -/
theorem backendProblems_eq
    (hseen : ∀ t, t ∈ seen.map Url.text ↔ some t ∈ earlier.map reading?) :
    backendProblems seen texts = (texts.zipIdx earlier.length).filterMap fun entry =>
      verdict ((earlier ++ texts).take entry.2) entry.1 := by
  induction texts generalizing seen earlier with
  | nil => rfl
  | cons text rest ih =>
    rw [List.zipIdx_cons, List.filterMap_cons, List.take_left, List.append_cons]
    have hlength : earlier.length + 1 = (earlier ++ [text]).length := by simp
    rw [hlength, verdict]
    cases hu : backendUrl text with
    | error p =>
      simp only [backendProblems, hu, backendUrl_eq_error.mp hu, Option.some_or]
      -- An entry without a URL reads like none.
      rw [ih fun t => ?_]
      simp [hseen, reading?_of_error hu]
    | ok u =>
      have hreading := reading?_of_ok hu
      simp only [backendProblems, hu, ownProblem?_of_ok hu, Option.none_or, hreading, ← hseen]
      by_cases hdup : u.text ∈ seen.map Url.text
      · -- A duplicate reads like an entry before it: there is nothing new to compare with.
        rw [if_pos (any_sameUrl.mpr hdup), if_pos hdup, ih fun t => ?_]
        rw [List.map_append, List.mem_append, ← hseen, List.map_singleton, List.mem_singleton,
          hreading, Option.some.injEq]
        exact ⟨.inl, fun h => h.elim id fun heq => heq ▸ hdup⟩
      · rw [if_neg (mt any_sameUrl.mp hdup), if_neg hdup, ih fun t => ?_]
        simp only [List.map_append, List.mem_append, hseen, List.map_singleton, List.mem_singleton,
          hreading, Option.some.injEq]

/-! ### The list in closed form -/

/-- All problems of a configuration, in their order. -/
def faults (c : Config) : List Problem :=
  (if c.balancer.backends = [] then [.noBackends] else []) ++
  (c.balancer.backends.zipIdx.filterMap fun entry =>
    verdict (c.balancer.backends.take entry.2) entry.1) ++
  (if c.healthCheck.intervalSecs = 0 then [.zeroInterval] else []) ++
  (if c.healthCheck.timeoutSecs = 0 then [.zeroTimeout "health_check.timeout_secs"] else []) ++
  (if c.forwarding.timeoutSecs = 0 then [.zeroTimeout "upstream.timeout_secs"] else []) ++
  (if c.healthCheck.path.toList.head? = some '/' then [] else [.invalidProbePath]) ++
  (if (Net.SocketAddress.ofString? c.listener.bindAddress).isSome then []
    else [.invalidBindAddress c.listener.bindAddress])

theorem problems_eq : problems c = faults c := by
  unfold problems settingProblems faults
  rw [@backendProblems_eq c.balancer.backends [] [] (by simp)]
  have hpath : c.healthCheck.path.startsWith "/" =
      decide (c.healthCheck.path.toList.head? = some '/') :=
    Bool.eq_iff_iff.mpr (Http.startsWith_slash_iff_head?.trans decide_eq_true_iff.symm)
  simp [hpath, require]

/-! ### Acceptance -/

/-- Two entries do not read the same, if both are URLs. -/
def Apart (x y : Except Url.Error Url) : Prop :=
  ∀ u v, x = .ok u → y = .ok v → u.text ≠ v.text

/-- A configuration as it should be. -/
structure Acceptable (c : Config) : Prop where
  backends : c.balancer.backends ≠ []
  urls : ∀ text ∈ c.balancer.backends, ∃ u, Url.ofString text = .ok u ∧ u.scheme = "http"
  apart : (c.balancer.backends.map Url.ofString).Pairwise Apart
  interval : c.healthCheck.intervalSecs ≠ 0
  probeTimeout : c.healthCheck.timeoutSecs ≠ 0
  callTimeout : c.forwarding.timeoutSecs ≠ 0
  path : c.healthCheck.path.toList.head? = some '/'
  address : (Net.SocketAddress.ofString? c.listener.bindAddress).isSome = true

theorem exists_map_eq_map_ok : (∃ urls : List Url, texts.map backendUrl = urls.map .ok) ↔
    ∀ text ∈ texts, ∃ u, backendUrl text = .ok u := by
  constructor
  · rintro ⟨urls, hread⟩ text htext
    have hmem := hread ▸ List.mem_map_of_mem htext
    obtain ⟨u, _, hu⟩ := List.mem_map.mp hmem
    exact ⟨u, hu.symm⟩
  · intro hread
    induction texts with
    | nil => exact ⟨[], rfl⟩
    | cons text rest ih =>
      obtain ⟨u, hu⟩ := hread text List.mem_cons_self
      obtain ⟨urls, hurls⟩ := ih fun t ht => hread t (List.mem_cons_of_mem text ht)
      exact ⟨u :: urls, by rw [List.map_cons, List.map_cons, hu, hurls]⟩

theorem map_ofString_of_map_backendUrl {urls : List Url}
    (h : texts.map backendUrl = urls.map .ok) : texts.map Url.ofString = urls.map .ok := by
  induction texts generalizing urls with
  | nil => cases urls <;> simp at h ⊢
  | cons text rest ih =>
    cases urls with
    | nil => simp at h
    | cons u tail =>
      obtain ⟨hu, hrest⟩ := List.cons.inj h
      rw [List.map_cons, List.map_cons, (backendUrl_eq_ok.mp hu).1, ih hrest]

theorem distinct_iff {urls : List Url} (h : texts.map Url.ofString = urls.map .ok) :
    Distinct urls ↔ (texts.map Url.ofString).Pairwise Apart := by
  rw [h, List.pairwise_map]
  simp [Distinct, Apart]

theorem backendProblems_nil_eq_nil : backendProblems [] texts = [] ↔
    (∀ text ∈ texts, ∃ u, Url.ofString text = .ok u ∧ u.scheme = "http") ∧
      (texts.map Url.ofString).Pairwise Apart := by
  rw [backendProblems_eq_nil .nil]
  simp only [← backendUrl_eq_ok, ← exists_map_eq_map_ok, List.nil_append]
  constructor
  · rintro ⟨urls, hread, hdistinct⟩
    exact ⟨⟨urls, hread⟩, (distinct_iff (map_ofString_of_map_backendUrl hread)).mp hdistinct⟩
  · rintro ⟨⟨urls, hread⟩, hapart⟩
    exact ⟨urls, hread, (distinct_iff (map_ofString_of_map_backendUrl hread)).mpr hapart⟩

theorem require_eq_nil {rule : Bool} : require rule p = [] ↔ rule = true := by
  cases rule <;> simp [require]

theorem validate_eq_ok_iff : validate c = .ok () ↔ Acceptable c := by
  rw [validate_eq_ok]
  simp only [problems, settingProblems, List.append_eq_nil_iff, require_eq_nil,
    backendProblems_nil_eq_nil, decide_eq_true_eq, Http.startsWith_slash_iff_head?,
    Bool.not_eq_true', List.isEmpty_eq_false_iff]
  constructor
  · rintro ⟨⟨hsome, hurls, hapart⟩, ⟨⟨⟨hinterval, hprobe⟩, hcall⟩, hpath⟩, haddress⟩
    exact ⟨hsome, hurls, hapart, hinterval, hprobe, hcall, hpath, haddress⟩
  · intro h
    exact ⟨⟨h.backends, h.urls, h.apart⟩,
      ⟨⟨⟨h.interval, h.probeTimeout⟩, h.callTimeout⟩, h.path⟩, h.address⟩

theorem validate_eq_error (h : problems c ≠ []) : validate c = .error (problems c) := by
  unfold validate
  split
  · next hnone => exact absurd hnone h
  · rfl

theorem validate_eq_error_iff {ps : List Problem} :
    validate c = .error ps ↔ ps = faults c ∧ ¬ Acceptable c := by
  rw [← validate_eq_ok_iff, validate, problems_eq]
  cases faults c with
  | nil => simp
  | cons p rest => simp [eq_comm]

/-! ### Any order -/

/-- What an entry has wrong with itself does not depend on those before. -/
theorem countP_kind_own {kind : String} (hkind : kind ≠ "DuplicateBackend") :
    (backendProblems seen texts).countP (·.kind = kind) =
      (texts.filterMap ownProblem?).countP (·.kind = kind) := by
  induction texts generalizing seen with
  | nil => rfl
  | cons text rest ih =>
    cases hu : backendUrl text with
    | error p =>
      rw [List.filterMap_cons_some (backendUrl_eq_error.mp hu)]
      simp only [backendProblems, hu, List.countP_cons, ih]
    | ok u =>
      rw [List.filterMap_cons_none (ownProblem?_of_ok hu)]
      simp only [backendProblems, hu]
      split
      · rw [List.countP_cons_of_neg (by rw [decide_eq_true_eq]; exact hkind.symm), ih]
      · exact ih

/-- Among the entries that have a URL, one of each reading is no duplicate. -/
theorem countP_kind_duplicate (hseen : Distinct seen) :
    (backendProblems seen texts).countP (·.kind = "DuplicateBackend") +
      (seen.map Url.text ++ texts.filterMap reading?).toFinset.card =
        seen.length + (texts.filterMap reading?).length := by
  induction texts generalizing seen with
  | nil =>
    have hnodup : (seen.map Url.text).Nodup := List.pairwise_map.mpr hseen
    simp [backendProblems, List.toFinset_card_of_nodup hnodup]
  | cons text rest ih =>
    cases hu : backendUrl text with
    | error p =>
      have hkind := kind_of_own (backendUrl_eq_error.mp hu)
      rw [List.filterMap_cons_none (reading?_of_error hu), ← ih hseen]
      simp only [backendProblems, hu]
      rw [List.countP_cons_of_neg (by simpa using hkind)]
    | ok u =>
      rw [List.filterMap_cons_some (reading?_of_ok hu)]
      simp only [backendProblems, hu]
      cases hdup : seen.any (sameUrl u) with
      | true =>
        have hsame : (seen.map Url.text ++ u.text :: rest.filterMap reading?).toFinset =
            (seen.map Url.text ++ rest.filterMap reading?).toFinset := by
          have hmem : u.text ∈ (seen.map Url.text).toFinset :=
            List.mem_toFinset.mpr (any_sameUrl.mp hdup)
          rw [List.toFinset_append, List.toFinset_cons, Finset.union_insert,
            Finset.insert_eq_of_mem (Finset.mem_union_left _ hmem), List.toFinset_append]
        rw [if_pos rfl, List.countP_cons_of_pos (by simp [Problem.kind]), hsame, List.length_cons]
        have := ih hseen
        omega
      | false =>
        have hrest := ih (distinct_append_singleton.mpr ⟨hseen, hdup⟩)
        rw [List.map_append, List.map_singleton, ← List.append_cons, List.length_append,
          List.length_singleton] at hrest
        rw [if_neg Bool.false_ne_true, List.length_cons]
        omega

theorem countP_kind_perm (kind : String) (h : texts.Perm texts') :
    (backendProblems [] texts).countP (·.kind = kind) =
      (backendProblems [] texts').countP (·.kind = kind) := by
  by_cases hkind : kind = "DuplicateBackend"
  · subst hkind
    have hreadings := h.filterMap reading?
    have hcount := @countP_kind_duplicate texts [] .nil
    have hcount' := @countP_kind_duplicate texts' [] .nil
    have hcard := List.toFinset_eq_of_perm _ _ hreadings
    have hlength := hreadings.length_eq
    simp only [List.map_nil, List.nil_append, hcard, hlength] at hcount hcount'
    omega
  · rw [countP_kind_own hkind, countP_kind_own hkind, (h.filterMap ownProblem?).countP_eq]

/-- The configuration with other backends. -/
def withBackends (c : Config) (texts : List String) : Config :=
  { c with balancer := { c.balancer with backends := texts } }

theorem countP_problems_perm (kind : String) (h : c.balancer.backends.Perm texts) :
    (problems (c.withBackends texts)).countP (·.kind = kind) =
      (problems c).countP (·.kind = kind) := by
  have hempty : texts.isEmpty = c.balancer.backends.isEmpty := h.symm.isEmpty_eq
  have hsettings : settingProblems (c.withBackends texts) = settingProblems c := rfl
  simp only [problems, hsettings, List.countP_append]
  congr 2
  · exact congrArg _ (congrArg (require · .noBackends) (congrArg _ hempty))
  · exact (countP_kind_perm kind h).symm

/-- There are no problems where there are none of any kind. -/
theorem problems_eq_nil_perm (h : c.balancer.backends.Perm texts) (hc : problems c = []) :
    problems (c.withBackends texts) = [] := by
  refine List.eq_nil_iff_forall_not_mem.mpr fun p hp => ?_
  have hcount := countP_problems_perm p.kind h
  rw [hc, List.countP_nil, List.countP_eq_zero] at hcount
  exact hcount p hp (decide_eq_true rfl)

/-- **What validation says of a configuration.** It passes just where it is as it should be. Or
else the errors are one for an empty list of backends; in the order of the backends what is wrong
with each, be it by itself or because an earlier one reads the same; and one for every setting that
breaks its rule. With the backends in another order, as many problems of each kind are found. And a
balancer is built of every configuration that passes, with one backend for each entry, in order. -/
theorem validation_exact (c : Config) :
    (validate c = .ok () ↔ Acceptable c) ∧
    (∀ ps, validate c = .error ps ↔ ps = faults c ∧ ¬ Acceptable c) ∧
    (∀ texts, c.balancer.backends.Perm texts →
      (validate (c.withBackends texts) = .ok () ↔ validate c = .ok ()) ∧
      ∀ ps ps', validate c = .error ps → validate (c.withBackends texts) = .error ps' →
        ∀ kind, ps'.countP (·.kind = kind) = ps.countP (·.kind = kind)) ∧
    (Acceptable c → ∃ a, Assembly.ofConfig c = .ok a ∧ a.size = c.balancer.backends.length ∧
      c.balancer.backends.map Url.ofString = a.balancer.backends.toList.map .ok) := by
  refine ⟨validate_eq_ok_iff, fun ps => validate_eq_error_iff, fun texts hperm => ⟨?_, ?_⟩, ?_⟩
  · rw [validate_eq_ok, validate_eq_ok]
    exact ⟨problems_eq_nil_perm (c := c.withBackends texts) hperm.symm, problems_eq_nil_perm hperm⟩
  · intro ps ps' hps hps' kind
    rw [(validate_eq_error_iff.mp hps).1, (validate_eq_error_iff.mp hps').1, ← problems_eq,
      ← problems_eq, countP_problems_perm kind hperm]
  · intro h
    obtain ⟨a, ha⟩ := Builds.of_validate (validate_eq_ok_iff.mpr h)
    exact ⟨a, ha.built, ha.size_eq, map_ofString_of_map_backendUrl ha.entries⟩

/-- With the backends backwards, another one of the two that read the same is the duplicate. -/
theorem validation_exact_backwards :
    let texts := ["http://[::1]:8081", "https://[::1]", "http://[::1]:8081/", "::"]
    let c : Config := { balancer := ⟨.roundRobin, texts⟩, healthCheck := ⟨0, 5, "health"⟩ }
    validate c = .error [.unsupportedScheme "https://[::1]",
      .duplicateBackend "http://[::1]:8081/", .malformedBackend "::" "relative URL without a base",
      .zeroInterval, .invalidProbePath] ∧
    (∃ ps, validate (c.withBackends texts.reverse) = .error ps ∧
      .duplicateBackend "http://[::1]:8081" ∈ ps ∧ ps.countP (·.kind = "DuplicateBackend") = 1) ∧
    ∃ a, Assembly.ofConfig (({} : Config).withBackends ["http://[::1]:8081", "http://[::1]:8082"]) =
      .ok a ∧ a.size = 2 := by
  intro texts c
  have hfound : problems c = [.unsupportedScheme "https://[::1]",
      .duplicateBackend "http://[::1]:8081/", .malformedBackend "::" "relative URL without a base",
      .zeroInterval, .invalidProbePath] := by decide +kernel
  have hrejected := validate_eq_error (c := c) (by rw [hfound]; nofun)
  have hdecided : .duplicateBackend "http://[::1]:8081" ∈ problems (c.withBackends texts.reverse) ∧
      problems (c.withBackends texts.reverse) ≠ [] := by decide +kernel
  obtain ⟨hduplicate, hsome⟩ := hdecided
  obtain ⟨_, _, horder, _⟩ := validation_exact c
  obtain ⟨_, hcount⟩ := horder texts.reverse (List.reverse_perm texts).symm
  have hbackwards := validate_eq_error hsome
  refine ⟨hrejected.trans (congrArg _ hfound), ⟨_, hbackwards, hduplicate, ?_⟩, ?_⟩
  · rw [hcount _ _ hrejected hbackwards, hfound]
    rfl
  · obtain ⟨hok, _, _, hbuilt⟩ :=
      validation_exact (({} : Config).withBackends ["http://[::1]:8081", "http://[::1]:8082"])
    obtain ⟨a, ha, hsize, _⟩ := hbuilt (hok.mp (validate_eq_ok.mpr (by decide +kernel)))
    exact ⟨a, ha, hsize⟩

end Sluice.Config
