import Mathlib.Data.List.TakeWhile
import Sluice.Http.Joining
import Sluice.Proofs.Results

/-! Paths and queries that are read once more.

The target of a request is read when it arrives, and its path and query are read again, as text,
when the target on a backend is made of them. The second reading finds what the first one left:
characters of paths and queries only, and so no fragment to cut off. A slash in front, where there
is none, changes nothing in that; and it always fits, since what was read without one stood behind
a scheme and an authority. -/
namespace Sluice.Http
open Results (Yields)

variable {s : String} {cs rest : List Char} {p : PathAndQuery}

/-! ### Sizes -/

theorem utf8ByteSize_ofList_append (front back : List Char) :
    (String.ofList (front ++ back)).utf8ByteSize =
      (String.ofList front).utf8ByteSize + (String.ofList back).utf8ByteSize := by
  rw [String.ofList_append, String.utf8ByteSize_append]

theorem utf8ByteSize_ofList_le (h : s.toList = cs ++ rest) :
    (String.ofList cs).utf8ByteSize ≤ s.utf8ByteSize := by
  have hs : s = String.ofList (cs ++ rest) := by rw [← h, String.ofList_toList]
  rw [hs, utf8ByteSize_ofList_append]
  omega

/-! ### Slashes in front -/

theorem startsWith_slash : s.startsWith "/" = true ↔ ∃ rest, s.toList = '/' :: rest := by
  rw [String.startsWith_string_iff]
  show ['/'] <+: s.toList ↔ _
  constructor
  · intro ⟨rest, h⟩
    exact ⟨rest, h.symm⟩
  · intro ⟨rest, h⟩
    exact ⟨rest, h.symm⟩

theorem startsWith_slash_iff_head? : s.startsWith "/" = true ↔ s.toList.head? = some '/' :=
  startsWith_slash.trans List.head?_eq_some_iff.symm

theorem rooted_of_slash (h : s.toList = '/' :: rest) : rooted s = s :=
  if_pos (startsWith_slash.mpr ⟨rest, h⟩)

theorem rooted_eq (s : String) : rooted s = s ∨ (rooted s).toList = '/' :: s.toList := by
  unfold rooted
  split
  · exact .inl rfl
  · refine .inr ?_
    rw [String.toList_append]
    rfl

theorem utf8ByteSize_rooted_le (s : String) : (rooted s).utf8ByteSize ≤ s.utf8ByteSize + 1 := by
  unfold rooted
  split
  · omega
  · rw [String.utf8ByteSize_append]
    have hslash : "/".utf8ByteSize = 1 := by decide
    omega

/-- An empty target is the root, with or without a slash. -/
theorem rooted_pathAndQuery (u : Uri) : rooted u.pathAndQuery = rooted u.target.text := by
  unfold Uri.pathAndQuery
  split
  · next h =>
    rw [String.isEmpty_iff.mp h]
    decide +kernel
  · rfl

/-! ### Reading a path and query -/

namespace PathAndQuery

theorem ofString_eq_ok : ofString s = .ok p ↔ s.utf8ByteSize ≤ maxUriBytes ∧
    wellFormed (beforeFragment s.toList) = true ∧
      p = ⟨String.ofList (beforeFragment s.toList)⟩ := by
  unfold ofString
  extract_lets kept
  split
  · next h =>
    simp only [reduceCtorEq, false_iff, not_and]
    omega
  · next h =>
    have hsize := Nat.le_of_not_lt h
    split
    · next hw => simp [kept, hw, hsize, eq_comm]
    · next hw => simp [kept, hw]

/-- Neither paths nor queries hold the sign in front of a fragment. -/
theorem beforeFragment_eq (h : wellFormed cs = true) : beforeFragment cs = cs := by
  refine List.takeWhile_eq_self_iff.mpr ?_
  intro c hc
  rw [decide_eq_true_eq]
  intro hsign
  subst hsign
  rw [wellFormed, Bool.and_eq_true] at h
  rw [← List.takeWhile_append_dropWhile (p := (· ≠ '?')) (l := cs), List.mem_append] at hc
  rcases hc with hc | hc
  · exact absurd (List.all_eq_true.mp h.1 '#' hc) (by decide)
  · -- The first character behind the path is the question mark.
    have hfirst := List.head?_dropWhile_not (· ≠ '?') cs
    generalize cs.dropWhile (· ≠ '?') = back at hc h hfirst
    cases back with
    | nil => cases hc
    | cons mark query =>
      have hmark : mark = '?' := by simpa using hfirst
      have hin : '#' ∈ query := by simpa [hmark] using hc
      exact absurd (List.all_eq_true.mp h.2 '#' hin) (by decide)

theorem wellFormed_slash (h : wellFormed cs = true) : wellFormed ('/' :: cs) = true := by
  have hslash : isPathChar '/' = true := by decide
  simpa [wellFormed, hslash] using h

theorem wellFormed_rooted (h : wellFormed s.toList = true) :
    wellFormed (rooted s).toList = true := by
  rcases rooted_eq s with heq | heq
  · rw [heq]
    exact h
  · rw [heq]
    exact wellFormed_slash h

/-- What is left after a reading is read as it is. -/
theorem ofString_of_wellFormed (hsize : s.utf8ByteSize ≤ maxUriBytes)
    (h : wellFormed s.toList = true) : ofString s = .ok ⟨s⟩ := by
  refine ofString_eq_ok.mpr ⟨hsize, ?_, ?_⟩
  · rw [beforeFragment_eq h]
    exact h
  · rw [beforeFragment_eq h, String.ofList_toList]

/-! ### What is read -/

/-- It can be read again, also with a slash in front. -/
structure Passable (p : PathAndQuery) : Prop where
  wellFormed : wellFormed p.text.toList = true
  fits : (rooted p.text).utf8ByteSize ≤ maxUriBytes

theorem Passable.ofString (h : Passable p) : ofString (rooted p.text) = .ok ⟨rooted p.text⟩ :=
  ofString_of_wellFormed h.fits (wellFormed_rooted h.wellFormed)

theorem text_size_le (h : ofString s = .ok p) : p.text.utf8ByteSize ≤ s.utf8ByteSize := by
  obtain ⟨_, _, hp⟩ := ofString_eq_ok.mp h
  subst hp
  exact utf8ByteSize_ofList_le (List.takeWhile_append_dropWhile ..).symm

theorem text_wellFormed (h : ofString s = .ok p) :
    PathAndQuery.wellFormed p.text.toList = true := by
  obtain ⟨_, hw, hp⟩ := ofString_eq_ok.mp h
  subst hp
  rwa [String.toList_ofList]

theorem ofString_passable_of_slash (h : s.toList = '/' :: rest) :
    Yields (PathAndQuery.ofString s) Passable := by
  intro p hp
  refine ⟨text_wellFormed hp, ?_⟩
  obtain ⟨hsize, _, htext⟩ := ofString_eq_ok.mp hp
  have hslash : p.text.toList = '/' :: beforeFragment rest := by
    rw [htext, String.toList_ofList, h]
    simp [beforeFragment]
  rw [rooted_of_slash hslash]
  exact Nat.le_trans (text_size_le hp) hsize

theorem ofString_passable_of_room (h : s.utf8ByteSize + 1 ≤ maxUriBytes) :
    Yields (PathAndQuery.ofString s) Passable := by
  intro p hp
  refine ⟨text_wellFormed hp, ?_⟩
  have hroot := utf8ByteSize_rooted_le p.text
  have hsize := text_size_le hp
  omega

theorem passable_empty : Passable ⟨""⟩ :=
  ⟨by decide +kernel, by decide +kernel⟩

end PathAndQuery

/-! ### Reading a whole target -/

namespace Uri
open PathAndQuery (Passable)

/-- A scheme leaves room for more than a slash. -/
theorem splitScheme_room : Yields (splitScheme cs) fun parts => ∀ scheme rest,
    parts = some (scheme, rest) →
      (String.ofList rest).utf8ByteSize + 1 ≤ (String.ofList cs).utf8ByteSize := by
  unfold splitScheme
  extract_lets front
  split
  · next behind hback =>
    refine .ite .error (.ok ?_)
    intro scheme rest hparts
    simp only [Option.some.injEq, Prod.mk.injEq] at hparts
    obtain ⟨_, rfl⟩ := hparts
    have hcs : cs = front ++ ([':', '/', '/'] ++ behind) := by
      rw [← List.takeWhile_append_dropWhile (p := isSchemeChar) (l := cs), hback]
      rfl
    have hsigns : (String.ofList [':', '/', '/']).utf8ByteSize = 3 := by decide +kernel
    rw [hcs, utf8ByteSize_ofList_append, utf8ByteSize_ofList_append]
    omega
  · exact .ok nofun

theorem read_size : Yields (Authority.read cs) fun r =>
    (String.ofList r.2).utf8ByteSize ≤ (String.ofList cs).utf8ByteSize := by
  unfold Authority.read
  extract_lets front
  refine .after fun scan => .after fun _ => .ok ?_
  show (String.ofList (cs.dropWhile (!Authority.isEnd ·))).utf8ByteSize ≤ _
  have hcs : cs = front ++ cs.dropWhile (!Authority.isEnd ·) :=
    List.takeWhile_append_dropWhile.symm
  conv => rhs; rw [hcs]
  rw [utf8ByteSize_ofList_append]
  omega

theorem ofLongText_passable (h : (String.ofList cs).utf8ByteSize ≤ maxUriBytes) :
    Yields (ofLongText cs) fun u => Passable u.target := by
  unfold ofLongText
  refine .bind splitScheme_room fun parts hscheme => ?_
  cases parts with
  | none => exact .after fun r => .ite (.ok PathAndQuery.passable_empty) .error
  | some parts =>
    refine .bind read_size fun r hrest => .ite .error ?_
    have hbehind := hscheme parts.1 parts.2 rfl
    have hroom : (String.ofList r.2).utf8ByteSize + 1 ≤ maxUriBytes := by omega
    exact .bind (PathAndQuery.ofString_passable_of_room hroom) fun t ht => .ok ht

/-- The path and query of whatever is read as a target can be read again. -/
theorem ofString_passable (text : String) :
    Yields (ofString text) fun u => Passable u.target := by
  unfold ofString
  split
  · exact .error
  · next hsize =>
    split
    · exact .error
    · exact .ok ⟨by decide +kernel, by decide +kernel⟩
    · refine .ite (.ok ⟨by decide +kernel, by decide +kernel⟩) (.after fun _ => .ok ?_)
      exact PathAndQuery.passable_empty
    · next htext => exact .bind (PathAndQuery.ofString_passable_of_slash htext) fun t ht => .ok ht
    · refine ofLongText_passable ?_
      rw [String.ofList_toList]
      omega

end Uri
end Sluice.Http
