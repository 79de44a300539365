import Mathlib.Data.List.TakeWhile
import Sluice.Http.Uri
import Sluice.Proofs.Results

/-! What is accepted as an authority.

The reader counts colons and watches brackets, at signs and percent signs; any other character must
be one that may stand in an authority. A text of such characters with few colons is read without
remarks, also between brackets; and every character of a text that is read is one of them or one of
those signs. -/
namespace Sluice.Http.Authority

variable {s : String} {cs front : List Char} {c : Char} {scan scan' : Scan}

/-! ### One character -/

/-- The characters that the reader looks out for. -/
def isSign (c : Char) : Bool :=
  ":[]@%".toList.contains c

theorem next_of_char (h : isAuthorityChar c = true) (scan : Scan) :
    scan.next c = .ok { scan with atEnd := false } := by
  unfold Scan.next
  split
  case h_6 => exact if_pos h
  all_goals exact absurd h (by decide)

theorem next_colon (h : scan.colons < maxColons) :
    scan.next ':' = .ok { scan with colons := scan.colons + 1, atEnd := false } :=
  if_neg (Nat.not_le_of_lt h)

theorem legal_of_next (h : scan.next c = .ok scan') :
    isAuthorityChar c = true ∨ isSign c = true := by
  unfold Scan.next at h
  split at h
  · exact .inr (by decide)
  · exact .inr (by decide)
  · exact .inr (by decide)
  · exact .inr (by decide)
  · exact .inr (by decide)
  · split at h
    · next hc => exact .inl hc
    · cases h

theorem not_isEnd (h : isAuthorityChar c = true ∨ isSign c = true) : isEnd c = false := by
  cases hend : isEnd c with
  | false => rfl
  | true =>
    simp only [isEnd, Bool.or_eq_true, decide_eq_true_eq] at hend
    rcases hend with (rfl | rfl) | rfl <;> exact absurd h (by decide)

/-! ### Runs of characters -/

/-- A run without signs but colons. -/
theorem scan_run {colons : Nat} {opened closed percent : Bool}
    (hchars : ∀ c ∈ cs, isAuthorityChar c = true ∨ c = ':')
    (hcolons : colons + cs.count ':' ≤ maxColons) :
    cs.foldlM Scan.next ⟨colons, opened, closed, percent, false⟩ =
      .ok ⟨colons + cs.count ':', opened, closed, percent, false⟩ := by
  induction cs generalizing colons with
  | nil => rfl
  | cons c rest ih =>
    have hrest := fun c hc => hchars c (List.mem_cons_of_mem _ hc)
    rw [List.foldlM_cons]
    rcases hchars c List.mem_cons_self with hc | rfl
    · have hother : c ≠ ':' := fun heq => absurd (heq ▸ hc) (by decide)
      rw [List.count_cons_of_ne hother] at hcolons ⊢
      rw [next_of_char hc]
      exact ih hrest hcolons
    · rw [List.count_cons_self] at hcolons ⊢
      have hroom : colons < maxColons := by omega
      rw [next_colon hroom]
      refine (ih hrest (by dsimp only; omega)).trans ?_
      rw [Nat.add_assoc, Nat.add_comm 1]

theorem legal_of_scan (h : cs.foldlM Scan.next scan = .ok scan') :
    ∀ c ∈ cs, isAuthorityChar c = true ∨ isSign c = true := by
  induction cs generalizing scan with
  | nil => exact fun _ hc => absurd hc List.not_mem_nil
  | cons a rest ih =>
    rw [List.foldlM_cons] at h
    obtain ⟨between, hfirst, hrest⟩ := Results.bind_eq_ok.mp h
    intro c hc
    rcases List.mem_cons.mp hc with rfl | hc
    · exact legal_of_next hfirst
    · exact ih hrest c hc

/-! ### Whole authorities -/

theorem ofString_eq_ok (hne : s ≠ "") (hscan : s.toList.foldlM Scan.next .start = .ok scan)
    (hfinish : scan.finish = .ok ()) : ofString s = .ok s := by
  have hwhole : ∀ c ∈ s.toList, (!isEnd c) = true := fun c hc => by
    rw [not_isEnd (legal_of_scan hscan c hc)]
    rfl
  have hread : read s.toList = .ok (s.toList, []) := by
    rw [read, List.takeWhile_eq_self_iff.mpr hwhole, List.dropWhile_eq_nil_iff.mpr hwhole, hscan]
    show (scan.finish >>= _) = _
    rw [hfinish]
    rfl
  have hempty : s.isEmpty = false := by simpa using hne
  simp only [ofString, hempty, hread]
  rfl

theorem read_eq_ok {rest : List Char} (h : read cs = .ok (front, rest)) :
    front = cs.takeWhile (!isEnd ·) ∧ rest = cs.dropWhile (!isEnd ·) ∧
      ∃ scan, front.foldlM Scan.next .start = .ok scan := by
  unfold read at h
  obtain ⟨scan, hscan, h⟩ := Results.bind_eq_ok.mp h
  obtain ⟨_, _, h⟩ := Results.bind_eq_ok.mp h
  cases h
  exact ⟨rfl, rfl, scan, hscan⟩

theorem legal_of_ofString (h : ofString s = .ok s) :
    ∀ c ∈ s.toList, isAuthorityChar c = true ∨ isSign c = true := by
  unfold ofString at h
  extract_lets behind at h
  split at h
  · cases h
  · obtain ⟨⟨front, rest⟩, hread, h⟩ := Results.bind_eq_ok.mp h
    obtain ⟨hfront, hrest, scan, hscan⟩ := read_eq_ok hread
    dsimp only at h
    split at h
    · next hempty =>
      -- Nothing is behind the authority, so it is the whole text.
      have hall : s.toList.dropWhile (!isEnd ·) = [] := by
        rw [← hrest]
        exact List.isEmpty_iff.mp hempty
      rw [hfront, List.takeWhile_eq_self_iff.mpr (List.dropWhile_eq_nil_iff.mp hall)] at hscan
      exact legal_of_scan hscan
    · cases h

/-! ### Hosts with a port behind them -/

theorem digits_chars (n : Nat) : ∀ c ∈ (toString n).toList, isAuthorityChar c = true := by
  intro c hc
  rw [Nat.toString_eq_repr, Nat.toList_repr] at hc
  have hdigit := Nat.isDigit_of_mem_toDigits (by decide) (by decide) hc
  simp [isAuthorityChar, Char.isAlphanum, hdigit]

theorem count_colon (h : ∀ c ∈ cs, isAuthorityChar c = true) : cs.count ':' = 0 :=
  List.count_eq_zero.mpr fun hmem => absurd (h ':' hmem) (by decide)

/-- The port, with its colon. -/
theorem scan_port (n : Nat) {opened closed : Bool} :
    (':' :: (toString n).toList).foldlM Scan.next ⟨0, opened, closed, false, false⟩ =
      .ok ⟨1, opened, closed, false, false⟩ := by
  have hchars : ∀ c ∈ ':' :: (toString n).toList, isAuthorityChar c = true ∨ c = ':' := by
    intro c hc
    rcases List.mem_cons.mp hc with rfl | hc
    · exact .inr rfl
    · exact .inl (digits_chars n c hc)
  have hcount : (':' :: (toString n).toList).count ':' = 1 := by
    rw [List.count_cons_self, count_colon (digits_chars n)]
  rw [scan_run hchars (by rw [hcount]; decide), hcount]

/-- What a host may leave behind: no colons, and brackets in pairs. -/
theorem ofString_port {host : String} {both : Bool}
    (h : host.toList.foldlM Scan.next .start = .ok ⟨0, both, both, false, false⟩) (n : Nat) :
    ofString (host ++ ":" ++ toString n) = .ok (host ++ ":" ++ toString n) := by
  have hlist : (host ++ ":" ++ toString n).toList = host.toList ++ ':' :: (toString n).toList := by
    simp [String.toList_append]
  have hne : host ++ ":" ++ toString n ≠ "" := by
    intro hempty
    rw [hempty] at hlist
    simp at hlist
  have hscan : (host ++ ":" ++ toString n).toList.foldlM Scan.next .start =
      .ok ⟨1, both, both, false, false⟩ := by
    rw [hlist, List.foldlM_append, h]
    exact scan_port n
  exact ofString_eq_ok hne hscan (by cases both <;> decide)

theorem scan_plain (h : ∀ c ∈ cs, isAuthorityChar c = true) :
    cs.foldlM Scan.next .start = .ok ⟨0, false, false, false, false⟩ := by
  have hnone := count_colon h
  rw [Scan.start, scan_run (fun c hc => .inl (h c hc)) (by rw [hnone]; decide), hnone]

/-- An address between brackets may hold colons of its own. -/
theorem scan_bracketed (h : ∀ c ∈ cs, isAuthorityChar c = true ∨ c = ':')
    (hcolons : cs.count ':' ≤ maxColons) :
    ('[' :: (cs ++ [']'])).foldlM Scan.next .start = .ok ⟨0, true, true, false, false⟩ := by
  have hopen : Scan.start.next '[' = .ok ⟨0, true, false, false, false⟩ := rfl
  have hclose : ∀ colons, Scan.next ⟨colons, true, false, false, false⟩ ']' =
      .ok ⟨0, true, true, false, false⟩ := fun _ => rfl
  rw [List.foldlM_cons, hopen]
  show (cs ++ [']']).foldlM Scan.next _ = _
  rw [List.foldlM_append, scan_run h (by omega)]
  exact hclose _

end Sluice.Http.Authority
