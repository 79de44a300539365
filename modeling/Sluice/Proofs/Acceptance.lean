import Sluice.Balancer
import Sluice.Proofs.Results

/-! What validation accepts, and what is built of it.

The backends of a configuration that passes all have URLs, of which no two read the same. The
balancer has one backend for each entry, in the order of the entries. -/
namespace Sluice.Config
variable {c : Config} {text : String} {texts : List String} {u : Url} {seen : List Url}

/-! ### Backends -/

theorem backendUrl_ok (h : backendUrl text = .ok u) :
    Url.ofString text = .ok u ∧ u.scheme = "http" ∧ ∃ host, u.host? = some host := by
  unfold backendUrl at h
  split at h
  · cases h
  · next v hv =>
    split at h
    · cases h
    · next hscheme =>
      split at h
      · cases h
      · next hhost =>
        cases h
        refine ⟨hv, Classical.not_not.mp hscheme, ?_⟩
        cases hu : u.host? with
        | none => exact absurd (by rw [hu]; rfl) hhost
        | some host => exact ⟨host, rfl⟩

/-- No two of the URLs read the same. -/
def Distinct (urls : List Url) : Prop :=
  urls.Pairwise fun u v => u.text ≠ v.text

theorem distinct_append_singleton : Distinct (seen ++ [u]) ↔
    Distinct seen ∧ seen.any (sameUrl u) = false := by
  simp only [Distinct, List.pairwise_append, List.pairwise_singleton, List.mem_singleton,
    forall_eq, true_and, List.any_eq_false, sameUrl, decide_eq_true_eq]
  exact and_congr_right fun _ => forall₂_congr fun _ _ => ne_comm

/-- Backends have no problems where all have URLs that read apart, also from those before. -/
theorem backendProblems_eq_nil (hseen : Distinct seen) : backendProblems seen texts = [] ↔
    ∃ urls : List Url, texts.map backendUrl = urls.map .ok ∧ Distinct (seen ++ urls) := by
  induction texts generalizing seen with
  | nil => simp [backendProblems, hseen]
  | cons text rest ih =>
    cases hu : backendUrl text with
    | error p =>
      simp only [backendProblems, hu, List.map_cons, reduceCtorEq, false_iff]
      rintro ⟨urls, hread, _⟩
      cases urls <;> simp at hread
    | ok u =>
      have hcons : (∃ urls : List Url, (text :: rest).map backendUrl = urls.map .ok ∧
          Distinct (seen ++ urls)) ↔ ∃ tail : List Url, rest.map backendUrl = tail.map .ok ∧
          Distinct (seen ++ [u] ++ tail) := by
        constructor
        · rintro ⟨urls, hread, hdistinct⟩
          cases urls with
          | nil => simp at hread
          | cons v tail =>
            obtain ⟨rfl, hrest⟩ : u = v ∧ _ := by simpa [hu] using hread
            exact ⟨tail, hrest, by simpa using hdistinct⟩
        · rintro ⟨tail, hrest, hdistinct⟩
          exact ⟨u :: tail, by simp [hu, hrest], by simpa using hdistinct⟩
      rw [hcons]
      cases hdup : seen.any (sameUrl u) with
      | true =>
        simp only [backendProblems, hu, hdup, if_true, reduceCtorEq, false_iff]
        rintro ⟨tail, _, hdistinct⟩
        have hfresh := (distinct_append_singleton.mp (List.pairwise_append.mp hdistinct).1).2
        rw [hdup] at hfresh
        cases hfresh
      | false =>
        simp only [backendProblems, hu, hdup]
        exact ih (distinct_append_singleton.mpr ⟨hseen, hdup⟩)

/-! ### Whole configurations -/

theorem validate_eq_ok : validate c = .ok () ↔ problems c = [] := by
  cases h : problems c <;> simp [validate, h]

/-- A balancer that is built of a configuration: its backends are the entries, and they read
apart. -/
structure Builds (c : Config) (a : Assembly) : Prop where
  built : Assembly.ofConfig c = .ok a
  entries : c.balancer.backends.map backendUrl = a.balancer.backends.toList.map .ok
  distinct : Distinct a.balancer.backends.toList

theorem Builds.of_validate (h : validate c = .ok ()) : ∃ a, Builds c a := by
  have hnone : backendProblems [] c.balancer.backends = [] := by
    have hproblems := validate_eq_ok.mp h
    simp only [problems, List.append_eq_nil_iff] at hproblems
    exact hproblems.1.2
  obtain ⟨urls, hread, hdistinct⟩ := (backendProblems_eq_nil .nil).mp hnone
  have hbuilt : ∃ a, Assembly.ofConfig c = .ok a ∧ a.balancer.backends.toList = urls := by
    refine ⟨⟨urls.length, .fresh c.balancer.strategy ⟨urls.toArray, by simp⟩
      ⟨.ofSecs c.healthCheck.timeoutSecs, .ofSecs c.forwarding.timeoutSecs⟩
      c.healthCheck.path⟩, ?_, rfl⟩
    rw [Assembly.ofConfig, h, Results.mapM_eq_ok.mpr hread]
    rfl
  obtain ⟨a, ha, rfl⟩ := hbuilt
  exact ⟨a, ha, hread, hdistinct⟩

/-! ### By position -/

theorem Builds.size_eq {a : Assembly} (h : Builds c a) : a.size = c.balancer.backends.length := by
  have hlength := congrArg List.length h.entries
  simpa using hlength.symm

theorem Builds.entry {a : Assembly} (h : Builds c a) (i : Fin a.size) :
    ∃ text ∈ c.balancer.backends, backendUrl text = .ok (a.balancer.backends.get i) := by
  have hmem : (.ok (a.balancer.backends.get i) : Except Problem Url) ∈
      a.balancer.backends.toList.map .ok := List.mem_map_of_mem (by simp [Vector.get])
  rw [← h.entries] at hmem
  exact List.mem_map.mp hmem

/-- What differs along the list of backends differs between any two positions. -/
theorem ne_of_pairwise {β : Type} {n : Nat} {urls : Vector Url n} (f : Url → β)
    (h : urls.toList.Pairwise fun u v => f u ≠ f v) {i j : Fin n} (hij : i ≠ j) :
    f (urls.get i) ≠ f (urls.get j) := by
  have hdistinct := List.pairwise_iff_getElem.mp h
  rcases Nat.lt_or_gt_of_ne (Fin.val_ne_of_ne hij) with hlt | hlt
  · exact hdistinct i j (by simp) (by simp) hlt
  · exact (hdistinct j i (by simp) (by simp) hlt).symm

theorem Builds.text_ne {a : Assembly} (h : Builds c a) {i j : Fin a.size} (hij : i ≠ j) :
    (a.balancer.backends.get i).text ≠ (a.balancer.backends.get j).text :=
  ne_of_pairwise Url.text h.distinct hij

end Sluice.Config
