import Sluice.Idna.Domain

/-! What the names of hosts are made of.

A name in ASCII consists of what was in the text to begin with, after the mapping, and of what
encoding adds: lower-case letters, digits, hyphens and dots. The first is checked against what is
forbidden; the second is never forbidden. -/
namespace Sluice.Idna

/-- The characters that encoding adds. -/
def isPlain (c : Char) : Bool :=
  ('a' ≤ c && c ≤ 'z') || ('0' ≤ c && c ≤ '9') || c = '-' || c = '.'

theorem toNat_ofNat {n : Nat} (h : n < 128) : (Char.ofNat n).toNat = n := by
  have hall : ∀ m < 128, (Char.ofNat m).toNat = m := by decide
  exact hall n h

/-- Of ASCII, what holds of every code holds of every character. -/
theorem forall_ascii {P : Char → Prop} (h : ∀ n < 128, P (Char.ofNat n)) {c : Char}
    (hc : c.toNat < 128) : P c := by
  have hcode := h c.toNat hc
  rwa [Char.ofNat_toNat] at hcode

theorem ascii_of_isPlain {c : Char} (h : isPlain c = true) : c.toNat < 128 := by
  have hle : ∀ {a : Char}, c ≤ a → c.toNat ≤ a.toNat := fun h => h
  simp only [isPlain, Bool.or_eq_true, Bool.and_eq_true, decide_eq_true_eq] at h
  rcases h with ((⟨_, h⟩ | ⟨_, h⟩) | rfl) | rfl
  · exact Nat.lt_of_le_of_lt (hle h) (by decide)
  · exact Nat.lt_of_le_of_lt (hle h) (by decide)
  · decide
  · decide

/-! ### Encoded labels -/

namespace Punycode
variable {P : Char → Prop}

theorem threshold_le (k bias : Nat) : threshold k bias ≤ 26 := by
  unfold threshold
  split
  · omega
  · split <;> omega

theorem digitChar_plain {d : Nat} (h : d < base) : isPlain (digitChar d) = true := by
  have hall : ∀ e < 36, isPlain (digitChar e) = true := by decide
  exact hall d h

theorem digits_plain (bias k delta : Nat) : ∀ c ∈ digits bias k delta, isPlain c = true := by
  fun_induction digits bias k delta with
  | case1 k delta t hlt =>
    intro c hc
    obtain rfl := List.mem_singleton.mp hc
    have hle := threshold_le k bias
    exact digitChar_plain (Nat.lt_of_lt_of_le hlt (by simp only [t, base]; omega))
  | case2 k delta t hge ih =>
    intro c hc
    rcases List.mem_cons.mp hc with rfl | hc
    · have hle := threshold_le k bias
      have hroom : 0 < base - t := by simp only [t, base]; omega
      have hmod := Nat.mod_lt (delta - t) hroom
      exact digitChar_plain (by omega)
    · exact ih c hc

theorem visit_out (h : ∀ c, isPlain c = true → P c) (basic n : Nat) (w : Writer) (m : Nat)
    (hw : ∀ c ∈ w.out, P c) : ∀ c ∈ (w.visit basic n m).out, P c := by
  unfold Writer.visit
  split
  · exact hw
  · split
    · intro c hc
      rcases List.mem_append.mp hc with hc | hc
      · exact hw c hc
      · exact h c (digits_plain _ _ _ c hc)
    · exact hw

theorem place_out (h : ∀ c, isPlain c = true → P c) (text : List Nat) (basic : Nat)
    (others : List Nat) (n : Nat) (w : Writer) (hw : ∀ c ∈ w.out, P c) :
    ∀ c ∈ (place text basic others n w).out, P c := by
  induction others generalizing n w with
  | nil => exact hw
  | cons m rest ih =>
    refine ih _ _ ?_
    have hfold : ∀ (seen : List Nat) (w : Writer), (∀ c ∈ w.out, P c) →
        ∀ c ∈ (seen.foldl (Writer.visit basic m) w).out, P c := by
      intro seen
      induction seen with
      | nil => exact fun _ hw => hw
      | cons a seen ihs => exact fun w hw => ihs _ (visit_out h basic m w a hw)
    exact hfold text _ hw

/-- What is encoded consists of its own ASCII and of plain characters. -/
theorem encode_mem (text : List Nat) : ∀ c ∈ encode text,
    isPlain c = true ∨ ∃ n ∈ text, n < firstCode ∧ c = Char.ofNat n := by
  refine place_out (fun c hc => .inl hc) text _ _ _ _ ?_
  have hbasic : ∀ c ∈ (text.filter (· < firstCode)).map Char.ofNat,
      ∃ n ∈ text, n < firstCode ∧ c = Char.ofNat n := by
    intro c hc
    obtain ⟨n, hn, rfl⟩ := List.mem_map.mp hc
    obtain ⟨hmem, hlt⟩ := List.mem_filter.mp hn
    exact ⟨n, hmem, by simpa using hlt, rfl⟩
  intro c hc
  dsimp only at hc
  split at hc
  · cases hc
  · rcases List.mem_append.mp hc with hc | hc
    · exact .inr (hbasic c hc)
    · obtain rfl := List.mem_singleton.mp hc
      exact .inl rfl

end Punycode

/-! ### Labels -/

theorem isAscii_iff {text : List Nat} : isAscii text = true ↔ ∀ n ∈ text, n < 128 := by
  simp [isAscii]

theorem decode?_ascii {tail letters : List Nat} (h : decode? tail = some letters) :
    isAscii tail = true := by
  cases ha : isAscii tail with
  | true => rfl
  | false =>
    rw [decode?, ha] at h
    cases h

theorem sign_ascii : ∀ n ∈ sign, n < 128 ∧ isPlain (Char.ofNat n) = true := by
  decide

/-- A label is written as it is where it is ASCII, and else encoded. -/
theorem Label.ofPrepared?_cases {text : List Nat} {label : Label}
    (h : ofPrepared? text = some label) :
    label.ascii = text ∧ isAscii text = true ∨
      label.ascii = sign ++ (Punycode.encode text).map Char.toNat := by
  unfold ofPrepared? at h
  extract_lets behind at h
  have hbehind : ∀ written, behind written = some label → written = label := by
    intro written hwritten
    dsimp only [behind] at hwritten
    split at hwritten
    · exact Option.some.inj hwritten
    · cases hwritten
  split at h
  · next hsigned =>
    obtain ⟨written, hwritten, h⟩ := Option.bind_eq_some_iff.mp h
    obtain rfl := hbehind written h
    obtain ⟨letters, hletters, rfl⟩ := Option.map_eq_some_iff.mp hwritten
    refine .inl ⟨rfl, isAscii_iff.mpr fun n hn => ?_⟩
    obtain ⟨tail, rfl⟩ := List.isPrefixOf_iff_prefix.mp hsigned
    rcases List.mem_append.mp hn with hn | hn
    · exact (sign_ascii n hn).1
    · have htail := decode?_ascii hletters
      rw [List.drop_left] at htail
      exact isAscii_iff.mp htail n hn
  · split at h
    · next hascii =>
      obtain rfl := hbehind _ h
      exact .inl ⟨rfl, hascii⟩
    · split at h
      · cases h
      · obtain rfl := hbehind _ h
        exact .inr rfl

/-- What is written of a label is ASCII, and comes from the label or is plain. -/
theorem Label.ofPrepared?_ascii {text : List Nat} {label : Label}
    (h : ofPrepared? text = some label) :
    ∀ n ∈ label.ascii, n < 128 ∧ (n ∈ text ∨ isPlain (Char.ofNat n) = true) := by
  intro n hn
  rcases Label.ofPrepared?_cases h with ⟨hsame, hascii⟩ | hencoded
  · rw [hsame] at hn
    exact ⟨isAscii_iff.mp hascii n hn, .inl hn⟩
  · rw [hencoded] at hn
    rcases List.mem_append.mp hn with hn | hn
    · exact ⟨(sign_ascii n hn).1, .inr (sign_ascii n hn).2⟩
    · obtain ⟨c, hc, rfl⟩ := List.mem_map.mp hn
      rcases Punycode.encode_mem text c hc with hplain | ⟨m, hm, hlt, rfl⟩
      · rw [Char.ofNat_toNat]
        exact ⟨ascii_of_isPlain hplain, .inr hplain⟩
      · rw [toNat_ofNat hlt]
        exact ⟨hlt, .inl hm⟩

/-! ### Parts of lists -/

theorem mem_intercalate {α : Type} {sep : List α} {parts : List (List α)} {a : α}
    (h : a ∈ sep.intercalate parts) : a ∈ sep ∨ ∃ part ∈ parts, a ∈ part := by
  induction parts with
  | nil => simp at h
  | cons part rest ih =>
    cases rest with
    | nil =>
      rw [List.intercalate_singleton] at h
      exact .inr ⟨part, List.mem_cons_self, h⟩
    | cons next rest =>
      rw [List.intercalate_cons_cons] at h
      simp only [List.mem_append] at h
      rcases h with (h | h) | h
      · exact .inr ⟨part, List.mem_cons_self, h⟩
      · exact .inl h
      · exact (ih h).imp_right fun ⟨p, hp, ha⟩ => ⟨p, List.mem_cons_of_mem _ hp, ha⟩

theorem mem_intercalate_of_mem {α : Type} {sep part : List α} {parts : List (List α)} {a : α}
    (hpart : part ∈ parts) (ha : a ∈ part) : a ∈ sep.intercalate parts := by
  induction parts with
  | nil => cases hpart
  | cons first rest ih =>
    cases rest with
    | nil =>
      obtain rfl := List.mem_singleton.mp hpart
      rwa [List.intercalate_singleton]
    | cons next rest =>
      rw [List.intercalate_cons_cons]
      rcases List.mem_cons.mp hpart with rfl | hpart
      · exact List.mem_append_left _ (List.mem_append_left _ ha)
      · exact List.mem_append_right _ (ih hpart)

theorem mem_of_mem_splitOn {α : Type} [DecidableEq α] {sep : α} {text part : List α} {a : α}
    (hpart : part ∈ text.splitOn sep) (ha : a ∈ part) : a ∈ text := by
  have hwhole : [sep].intercalate (text.splitOn sep) = text := List.intercalate_splitOn sep
  rw [← hwhole]
  exact mem_intercalate_of_mem hpart ha

theorem mem_of_mapM {α β : Type} {f : α → Option β} {as : List α} {bs : List β}
    (h : as.mapM f = some bs) {b : β} (hb : b ∈ bs) : ∃ a ∈ as, f a = some b := by
  induction as generalizing bs with
  | nil =>
    cases h
    cases hb
  | cons a rest ih =>
    rw [List.mapM_cons] at h
    obtain ⟨first, hfirst, h⟩ := Option.bind_eq_some_iff.mp h
    obtain ⟨others, hothers, h⟩ := Option.bind_eq_some_iff.mp h
    cases h
    rcases List.mem_cons.mp hb with rfl | hb
    · exact ⟨a, List.mem_cons_self, hfirst⟩
    · obtain ⟨a', ha', heq⟩ := ih hothers hb
      exact ⟨a', List.mem_cons_of_mem _ ha', heq⟩

/-! ### Names -/

/-- What a name in ASCII is put together of. -/
theorem toAscii?_eq_some {forbidden : Char → Bool} {name : List Char} {ascii : String}
    (h : toAscii? forbidden name = some ascii) : ∃ (prepared : List Nat) (labels : List Label),
      (prepared.splitOn '.'.toNat).mapM Label.ofPrepared? = some labels ∧
        (∀ n ∈ prepared, n < 128 → forbidden (Char.ofNat n) = false) ∧
        ascii.toList = ([46].intercalate (labels.map (·.ascii))).map Char.ofNat := by
  unfold toAscii? at h
  obtain ⟨prepared, _, h⟩ := Option.bind_eq_some_iff.mp h
  obtain ⟨labels, hlabels, h⟩ := Option.bind_eq_some_iff.mp h
  refine ⟨prepared, labels, hlabels, ?_⟩
  extract_lets letters again behind at h
  split at h
  · cases h
  · next hallowed =>
    dsimp only [behind] at h
    split at h
    · cases h
    · cases h
      refine ⟨?_, String.toList_ofList⟩
      simpa using hallowed

/-- A name in ASCII holds nothing beyond ASCII and nothing forbidden. -/
theorem toAscii?_mem {forbidden : Char → Bool}
    (hplain : ∀ c, isPlain c = true → forbidden c = false) {name : List Char} {ascii : String}
    (h : toAscii? forbidden name = some ascii) :
    ∀ c ∈ ascii.toList, c.toNat < 128 ∧ forbidden c = false := by
  obtain ⟨prepared, labels, hlabels, hallowed, hascii⟩ := toAscii?_eq_some h
  intro c hc
  rw [hascii] at hc
  obtain ⟨n, hn, rfl⟩ := List.mem_map.mp hc
  rcases mem_intercalate hn with hdot | ⟨part, hpart, hn⟩
  · obtain rfl := List.mem_singleton.mp hdot
    exact ⟨by decide, hplain _ (by decide)⟩
  · obtain ⟨label, hlabel, rfl⟩ := List.mem_map.mp hpart
    obtain ⟨text, htext, hwritten⟩ := mem_of_mapM hlabels hlabel
    obtain ⟨hlt, horigin⟩ := Label.ofPrepared?_ascii hwritten n hn
    rw [toNat_ofNat hlt]
    refine ⟨hlt, ?_⟩
    rcases horigin with hmem | hadded
    · exact hallowed n (mem_of_mem_splitOn htext hmem) hlt
    · exact hplain _ hadded

end Sluice.Idna
