/-! Results of steps that can fail.

What a sequence of steps gives, if it gives anything, is what its steps give in turn. -/
namespace Sluice.Results

variable {ε ε' α β : Type} {x y : Except ε α} {f : α → Except ε β} {a : α} {b : β}

/-! ### Success -/

theorem bind_eq_ok : x >>= f = .ok b ↔ ∃ a, x = .ok a ∧ f a = .ok b := by
  cases x <;> simp [bind, Except.bind]

theorem isOk_iff : x.isOk = true ↔ ∃ a, x = .ok a := by
  cases x <;> simp [Except.isOk, Except.toBool]

theorem isOk_eq_false_iff : x.isOk = false ↔ ∃ e, x = .error e := by
  cases x <;> simp [Except.isOk, Except.toBool]

theorem toOption_eq_some : x.toOption = some a ↔ x = .ok a := by
  cases x <;> simp [Except.toOption]

/-- What is seen of the result, if there is one. -/
theorem toOption_map_eq_some {g : α → β} :
    x.toOption.map g = some b ↔ ∃ a, x = .ok a ∧ g a = b := by
  cases x <;> simp [Except.toOption]

theorem mapError_eq_ok {g : ε → ε'} : x.mapError g = .ok a ↔ x = .ok a := by
  cases x with
  | error e => exact ⟨nofun, nofun⟩
  | ok b =>
    constructor <;> rintro ⟨⟩ <;> rfl

/-- A list is read where every entry is, each on its own. -/
theorem mapM_eq_ok {as : List α} {bs : List β} : as.mapM f = .ok bs ↔ as.map f = bs.map .ok := by
  induction as generalizing bs with
  | nil => cases bs <;> simp [pure, Except.pure]
  | cons a as ih =>
    rw [List.mapM_cons, List.map_cons]
    cases hf : f a with
    | error e => cases bs <;> simp [bind, Except.bind]
    | ok b =>
      cases hrest : as.mapM f with
      | error e => cases bs <;> simp [bind, Except.bind, ← ih, hrest]
      | ok rest => cases bs <;> simp [bind, Except.bind, pure, Except.pure, ← ih, hrest]

/-! ### What holds of every success -/

/-- The result, if there is one, satisfies this. -/
def Yields (x : Except ε α) (P : α → Prop) : Prop :=
  ∀ a, x = .ok a → P a

variable {P : α → Prop} {Q : β → Prop}

theorem Yields.error {e : ε} : Yields (.error e) P := nofun

theorem Yields.ok (h : P a) : Yields (.ok a : Except ε α) P := by
  rintro _ ⟨⟩
  exact h

theorem Yields.bind (hx : Yields x P) (hf : ∀ a, P a → Yields (f a) Q) : Yields (x >>= f) Q := by
  intro b h
  obtain ⟨a, ha, hb⟩ := bind_eq_ok.mp h
  exact hf a (hx a ha) b hb

/-- Whatever the first step gives. -/
theorem Yields.after (hf : ∀ a, Yields (f a) Q) : Yields (x >>= f) Q :=
  .bind (P := fun _ => True) (fun _ _ => trivial) fun a _ => hf a

theorem Yields.ite {c : Prop} [Decidable c] (hx : Yields x P) (hy : Yields y P) :
    Yields (if c then x else y) P := by
  split
  · exact hx
  · exact hy

end Sluice.Results
