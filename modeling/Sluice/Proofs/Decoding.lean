import Mathlib.Data.List.Forall2
import Sluice.Config.Decode
import Sluice.Proofs.Results

/-! Decoding a configuration, as a rule on the data.

What a value says is a relation for every kind of setting, and its decoder succeeds with what the
value says. A section is decoded entry by entry, each over what there is so far; what comes of it
can be said without the order. It is decoded where every entry under the key of a setting is what
that setting takes (`Follows.succeeds_iff`), and a field is then what the last entry under its key
says, or else what it was (`Governs.decided`). A table has its own entries; in an array the items
stand for the settings in their order (`entries?`). -/
namespace Sluice.Config
open Toml (Value)
open Results

/-! ### What values say -/

def IsString (v : Value) (s : String) : Prop :=
  v = .string s

def IsBoolean (v : Value) (b : Bool) : Prop :=
  v = .boolean b

/-- A number of 64 bits. -/
def IsNumber (v : Value) (n : Nat) : Prop :=
  v = .integer n ∧ n < Nat.pow 2 64

/-- Strings, all of them. -/
def IsStrings (v : Value) (ss : List String) : Prop :=
  v = .array (ss.map .string)

/-- By its name, alone or as the key of a table that holds nothing. -/
inductive IsStrategy : Value → Strategy → Prop
  | name (s : Strategy) : IsStrategy (.string s.key) s
  | array (s : Strategy) : IsStrategy (.table [(s.key, .array [])]) s
  | table (s : Strategy) : IsStrategy (.table [(s.key, .table [])]) s

variable {v : Value}

theorem string_eq_ok {s : String} : Decoder.string v = .ok s ↔ IsString v s := by
  cases v <;> simp [Decoder.string, IsString]

theorem boolean_eq_ok {b : Bool} : Decoder.boolean v = .ok b ↔ IsBoolean v b := by
  cases v <;> simp [Decoder.boolean, IsBoolean]

theorem number_eq_ok {n : Nat} : Decoder.number v = .ok n ↔ IsNumber v n := by
  cases v with
  | integer m =>
    simp only [Decoder.number, IsNumber, Value.integer.injEq]
    split
    · rw [Except.ok.injEq]
      omega
    · simp only [reduceCtorEq, false_iff]
      omega
  | _ => simp [Decoder.number, IsNumber]

theorem strings_eq_ok {ss : List String} : Decoder.strings v = .ok ss ↔ IsStrings v ss := by
  cases v with
  | array items =>
    rw [Decoder.strings, mapM_eq_ok, IsStrings, Value.array.injEq]
    induction items generalizing ss with
    | nil => cases ss <;> simp
    | cons item items ih =>
      cases ss with
      | nil => simp
      | cons s ss =>
        simp only [List.map_cons, List.cons.injEq, string_eq_ok, ih]
        rfl
  | _ => simp [Decoder.strings, IsStrings]

theorem named_eq_ok {name : String} {s : Strategy} :
    Decoder.named name = .ok s ↔ s.key = name := by
  unfold Decoder.named
  constructor
  · intro h
    split at h
    case h_1 t ht =>
      cases h
      simpa using List.find?_some ht
    case h_2 => cases h
  · rintro rfl
    rw [Strategy.ofKey?_key]

theorem strategy_eq_ok {s : Strategy} : Decoder.strategy v = .ok s ↔ IsStrategy v s := by
  constructor
  · intro h
    unfold Decoder.strategy at h
    split at h
    case h_1 name =>
      cases named_eq_ok.mp h
      exact .name s
    case h_3 name content =>
      obtain ⟨t, ht, hcontent⟩ := bind_eq_ok.mp h
      cases named_eq_ok.mp ht
      split at hcontent <;> cases hcontent
      · exact .array s
      · exact .table s
    all_goals cases h
  · rintro (_ | _ | _) <;>
      simp [Decoder.strategy, named_eq_ok.mpr rfl, bind, Except.bind]

/-! ### Entries -/

/-- The entries of a section whose settings have these keys. -/
def entries? (keys : List String) : Value → Option (List (String × Value))
  | .table entries => some entries
  | .array items => some (keys.zip items)
  | .datetime => some []
  | _ => none

/-- The value under a key. No table of a file has a key twice; elsewhere the last one counts. -/
def under? (keys : List String) (key : String) (v : Value) : Option Value := do
  (← entries? keys v).reverse.lookup key

/-- Every entry under a key of the layout is what the layout says. -/
def Conforms (layout : List (String × (Value → Prop))) (v : Value) : Prop :=
  ∃ entries, entries? (layout.map (·.1)) v = some entries ∧
    ∀ entry ∈ entries, ∀ fits, layout.lookup entry.1 = some fits → fits entry.2

/-- What is set by a value, where there is one, and by a default elsewhere. -/
def Decided {β : Type} (value : Option Value) (reads : Value → β → Prop) (default b : β) : Prop :=
  match value with
  | some v => reads v b
  | none => b = default

/-- What a decoder makes of a value, as what the value says. -/
def Decoder.Gives {γ : Type} (decode : Decoder γ) (v : Value) (c : γ) : Prop :=
  decode v = .ok c

variable {α β : Type} {settings : List (Setting α)} {a a' default : α} {name : String}

theorem find?_key {s : Setting α} (hkeys : (settings.map (·.key)).Nodup) (hs : s ∈ settings) :
    settings.find? (·.key = s.key) = some s := by
  induction settings with
  | nil => cases hs
  | cons t rest ih =>
    rw [List.map_cons, List.nodup_cons] at hkeys
    rcases List.mem_cons.mp hs with rfl | hs
    · simp
    · have hne : t.key ≠ s.key := fun h => hkeys.1 (h ▸ List.mem_map_of_mem hs)
      rw [List.find?_cons_of_neg (by simpa using hne)]
      exact ih hkeys.2 hs

/-- Items in the order of the settings are entries under the keys of the settings. -/
theorem foldlM_zip (hkeys : (settings.map (·.key)).Nodup) {part : List (Setting α)}
    (hpart : ∀ s ∈ part, s ∈ settings) (items : List Value) (a : α) :
    (part.zip items).foldlM (fun a (s, v) => s.put a v) a =
      ((part.map (·.key)).zip items).foldlM (putEntry settings) a := by
  induction part generalizing items a with
  | nil => rfl
  | cons s part ih =>
    cases items with
    | nil => rfl
    | cons v items =>
      have hput : putEntry settings a (s.key, v) = s.put a v := by
        rw [putEntry, find?_key hkeys (hpart s List.mem_cons_self)]
      rw [List.map_cons, List.zip_cons_cons, List.zip_cons_cons, List.foldlM_cons,
        List.foldlM_cons, hput]
      congr 1
      funext b
      exact ih (fun t ht => hpart t (List.mem_cons_of_mem _ ht)) items b

theorem decodeSection_eq_ok (hkeys : (settings.map (·.key)).Nodup) :
    decodeSection name default settings v = .ok a ↔
      ∃ entries, entries? (settings.map (·.key)) v = some entries ∧
        entries.foldlM (putEntry settings) default = .ok a := by
  cases v with
  | array items => simp [decodeSection, entries?, foldlM_zip hkeys (fun _ h => h)]
  | _ => simp [decodeSection, entries?, pure, Except.pure]

/-! ### Success -/

/-- The settings, as a layout says what they take. -/
def Follows (settings : List (Setting α)) (layout : List (String × (Value → Prop))) : Prop :=
  List.Forall₂ (fun s part => s.key = part.1 ∧ ∀ a v, (∃ a', s.put a v = .ok a') ↔ part.2 v)
    settings layout

variable {layout : List (String × (Value → Prop))}

theorem Follows.keys (h : Follows settings layout) :
    settings.map (·.key) = layout.map (·.1) := by
  induction h with
  | nil => rfl
  | cons hpart _ ih => rw [List.map_cons, List.map_cons, hpart.1, ih]

theorem Follows.putEntry_succeeds (h : Follows settings layout) {entry : String × Value} :
    (∃ a', putEntry settings a entry = .ok a') ↔
      ∀ fits, layout.lookup entry.1 = some fits → fits entry.2 := by
  unfold putEntry
  induction h with
  | nil => simp
  | @cons s part settings layout hpart _ ih =>
    obtain ⟨k, fits⟩ := part
    obtain ⟨rfl, hput⟩ := hpart
    by_cases hkey : s.key = entry.1
    · rw [List.find?_cons_of_pos (by simpa using hkey), hkey, List.lookup_cons_self]
      simp [hput]
    · have hbeq : (entry.1 == s.key) = false := by simpa using Ne.symm hkey
      rw [List.find?_cons_of_neg (by simpa using hkey), ih, List.lookup_cons, hbeq]

theorem Follows.foldlM_succeeds (h : Follows settings layout) {entries : List (String × Value)} :
    (∃ a', entries.foldlM (putEntry settings) a = .ok a') ↔
      ∀ entry ∈ entries, ∀ fits, layout.lookup entry.1 = some fits → fits entry.2 := by
  induction entries generalizing a with
  | nil => simp [pure, Except.pure]
  | cons entry rest ih =>
    rw [List.foldlM_cons, List.forall_mem_cons, ← h.putEntry_succeeds (a := a)]
    simp only [bind_eq_ok]
    constructor
    · rintro ⟨a', b, hb, hrest⟩
      exact ⟨⟨b, hb⟩, ih.mp ⟨a', hrest⟩⟩
    · rintro ⟨⟨b, hb⟩, hrest⟩
      obtain ⟨a', ha'⟩ := ih.mpr hrest
      exact ⟨a', b, hb, ha'⟩

/-- A section is read where it is one and every setting in it is what the layout says. -/
theorem Follows.succeeds_iff (h : Follows settings layout) (hkeys : (layout.map (·.1)).Nodup) :
    (∃ a, decodeSection name default settings v = .ok a) ↔ Conforms layout v := by
  rw [← h.keys] at hkeys
  simp only [decodeSection_eq_ok hkeys, Conforms, ← h.keys, ← h.foldlM_succeeds (a := default)]
  constructor
  · rintro ⟨a, entries, hentries, ha⟩
    exact ⟨entries, hentries, a, ha⟩
  · rintro ⟨entries, hentries, a, ha⟩
    exact ⟨a, entries, hentries, ha⟩

/-! ### One field -/

/-- The setting under this key is the one that decides a field, by what is read in its value. -/
structure Governs (settings : List (Setting α)) (key : String) (get : α → β)
    (reads : Value → β → Prop) : Prop where
  known : key ∈ settings.map (·.key)
  own : ∀ s ∈ settings, s.key = key → ∀ a v a', s.put a v = .ok a' → reads v (get a')
  others : ∀ s ∈ settings, s.key ≠ key → ∀ a v a', s.put a v = .ok a' → get a' = get a

variable {key : String} {get : α → β} {reads : Value → β → Prop}

/-- Another entry, or one that no setting is for, leaves the field alone. -/
theorem Governs.putEntry_ne (h : Governs settings key get reads) {entry : String × Value}
    (hne : entry.1 ≠ key) (hput : putEntry settings a entry = .ok a') : get a' = get a := by
  unfold putEntry at hput
  split at hput
  case h_1 s hs =>
    have hkey : s.key = entry.1 := by simpa using List.find?_some hs
    exact h.others s (List.mem_of_find?_eq_some hs) (hkey ▸ hne) a entry.2 a' hput
  case h_2 => cases hput; rfl

theorem Governs.putEntry_self (h : Governs settings key get reads) {v : Value}
    (hput : putEntry settings a (key, v) = .ok a') : reads v (get a') := by
  unfold putEntry at hput
  split at hput
  case h_1 s hs =>
    have hkey : s.key = key := by simpa using List.find?_some hs
    exact h.own s (List.mem_of_find?_eq_some hs) hkey a v a' hput
  case h_2 hnone =>
    obtain ⟨s, hs, hkey⟩ := List.mem_map.mp h.known
    exact absurd hkey (by simpa using List.find?_eq_none.mp hnone s hs)

/-- The induction: the entries behind an entry under the key decide, if one of them is under it. -/
theorem Governs.foldlM (h : Governs settings key get reads) {entries : List (String × Value)}
    (hok : entries.foldlM (putEntry settings) a = .ok a') :
    Decided (entries.reverse.lookup key) reads (get a) (get a') := by
  induction entries generalizing a with
  | nil =>
    cases hok
    rfl
  | cons entry rest ih =>
    rw [List.foldlM_cons, bind_eq_ok] at hok
    obtain ⟨b, hput, hrest⟩ := hok
    have hlast := ih hrest
    rw [List.reverse_cons, List.lookup_append]
    cases hw : rest.reverse.lookup key with
    | some w => rwa [hw] at hlast
    | none =>
      -- Nothing behind this entry is under the key, so the field stays as it leaves it.
      rw [hw] at hlast
      obtain ⟨k, v⟩ := entry
      by_cases hkey : k = key
      · subst hkey
        have hread := h.putEntry_self hput
        rw [← show get a' = get b from hlast] at hread
        simpa [Decided, List.lookup_cons] using hread
      · have hkept := h.putEntry_ne hkey hput
        have hbeq : (key == k) = false := by simpa using Ne.symm hkey
        simpa [Decided, List.lookup_cons, hbeq] using Eq.trans hlast hkept

/-- What a section makes of a field. -/
theorem Governs.decided (h : Governs settings key get reads)
    (hkeys : (settings.map (·.key)).Nodup)
    (hok : decodeSection name default settings v = .ok a) :
    Decided (under? (settings.map (·.key)) key v) reads (get default) (get a) := by
  obtain ⟨entries, hentries, hfold⟩ := (decodeSection_eq_ok hkeys).mp hok
  rw [under?, hentries]
  exact h.foldlM hfold

/-! ### Settings that are fields -/

/-- The setting that puts what is decoded into a field. -/
def field (key : String) (decode : Decoder β) (set : α → β → α) : Setting α :=
  ⟨key, fun a v => return set a (← decode v)⟩

variable {γ : Type} {decode : Decoder γ} {set : α → γ → α}

theorem field_put_eq_ok :
    (field key decode set).put a v = .ok a' ↔ ∃ c, decode v = .ok c ∧ set a c = a' := by
  simp [field, bind_eq_ok, pure, Except.pure]

theorem Follows.nil : Follows ([] : List (Setting α)) [] :=
  List.Forall₂.nil

theorem Follows.cons {fits : Value → Prop} (hfits : ∀ v, (∃ c, decode v = .ok c) ↔ fits v)
    (h : Follows settings layout) :
    Follows (field key decode set :: settings) ((key, fits) :: layout) := by
  refine List.Forall₂.cons ⟨rfl, fun a v => ?_⟩ h
  simp only [field_put_eq_ok, ← hfits v]
  constructor
  · rintro ⟨a', c, hc, -⟩
    exact ⟨c, hc⟩
  · rintro ⟨c, hc⟩
    exact ⟨set a c, c, hc, rfl⟩

/-- What a value for a setting has to be: one that says something. -/
def Says (reads : Value → β → Prop) (v : Value) : Prop :=
  ∃ b, reads v b

theorem Follows.reading {reads : Value → γ → Prop} (hreads : ∀ {v c}, decode v = .ok c ↔ reads v c)
    (h : Follows settings layout) :
    Follows (field key decode set :: settings) ((key, Says reads) :: layout) :=
  .cons (fun _ => exists_congr fun _ => hreads) h

/-- None of the settings touches a field. -/
def Keeps (settings : List (Setting α)) (get : α → β) : Prop :=
  ∀ s ∈ settings, ∀ a v a', s.put a v = .ok a' → get a' = get a

theorem Keeps.nil : Keeps [] get :=
  nofun

theorem Keeps.cons (hkeep : ∀ a c, get (set a c) = get a) (h : Keeps settings get) :
    Keeps (field key decode set :: settings) get := by
  intro s hs a v a' hput
  rcases List.mem_cons.mp hs with rfl | hs
  · obtain ⟨c, -, rfl⟩ := field_put_eq_ok.mp hput
    exact hkeep a c
  · exact h s hs a v a' hput

/-- The field is the one of this setting, and those behind keep it. -/
theorem Governs.here {decode : Decoder β} {set : α → β → α}
    (hget : ∀ a b, get (set a b) = b) (hreads : ∀ v b, decode v = .ok b → reads v b)
    (hkey : key ∉ settings.map (·.key)) (h : Keeps settings get) :
    Governs (field key decode set :: settings) key get reads where
  known := List.mem_cons_self
  own s hs hskey a v a' hput := by
    rcases List.mem_cons.mp hs with rfl | hs
    · obtain ⟨b, hb, rfl⟩ := field_put_eq_ok.mp hput
      rw [hget]
      exact hreads v b hb
    · exact absurd (List.mem_map.mpr ⟨s, hs, hskey⟩) hkey
  others s hs hne a v a' hput := by
    rcases List.mem_cons.mp hs with rfl | hs
    · exact absurd rfl hne
    · exact h s hs a v a' hput

/-- The field is the one of a setting behind this, and this one keeps it. -/
theorem Governs.there {other : String} (hne : other ≠ key)
    (hkeep : ∀ a c, get (set a c) = get a) (h : Governs settings key get reads) :
    Governs (field other decode set :: settings) key get reads where
  known := List.mem_cons_of_mem _ h.known
  own s hs hskey a v a' hput := by
    rcases List.mem_cons.mp hs with rfl | hs
    · exact absurd hskey hne
    · exact h.own s hs hskey a v a' hput
  others s hs hskey a v a' hput := by
    rcases List.mem_cons.mp hs with rfl | hs
    · obtain ⟨c, -, rfl⟩ := field_put_eq_ok.mp hput
      exact hkeep a c
    · exact h.others s hs hskey a v a' hput

end Sluice.Config
