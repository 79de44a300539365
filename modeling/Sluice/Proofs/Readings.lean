import Sluice.Proofs.Results
import Sluice.Url.Reading

/-! What is left of a URL once it is read.

The usual port of a scheme is never kept, however it was written. So for the URLs of one scheme the
port that is written and the port to connect to tell the same apart. -/
namespace Sluice.Url
open Results (Yields)

variable {kind : Kind} {scheme : String} {s rest : List Char} {u : Url} {port : Option UInt16}

/-! ### The usual port -/

/-- No port is written that the scheme has anyway. -/
def Unusual (scheme : String) (port : Option UInt16) : Prop :=
  port.isSome → port ≠ usualPort? scheme

theorem unusual_none : Unusual scheme none := nofun

theorem portOfDigits_unusual : Yields (portOfDigits scheme s) (Unusual scheme) := by
  unfold portOfDigits
  split
  · next n _ =>
    refine .ite .error ?_
    split
    · exact .ok unusual_none
    · next hne => exact .ok fun _ heq => hne heq.symm
  · exact .ite (.ok unusual_none) .error

theorem readHost_unusual : Yields (readHost kind scheme s) fun r => Unusual scheme r.2.1 := by
  unfold readHost
  extract_lets place length behind
  have hbehind : ∀ host, Yields (behind host) fun r => Unusual scheme r.2.1 := by
    intro host
    dsimp only [behind]
    split
    · exact .ite .error (.bind portOfDigits_unusual fun p hp => .ok hp)
    · exact .ok unusual_none
  exact .ite (.after hbehind) (.ite (.after hbehind) (.after hbehind))

theorem readAuthority_unusual :
    Yields (readAuthority kind scheme s) fun r => Unusual scheme r.1.port := by
  unfold readAuthority
  extract_lets front
  split
  extract_lets behind
  have hbehind : ∀ r, Yields (behind r) fun r => Unusual scheme r.1.port := by
    intro r
    refine .bind readHost_unusual fun ⟨host, port, rest⟩ hport => ?_
    exact .ite (.after fun _ => .ok hport) (.ok hport)
  exact .ite (.after hbehind) (hbehind ())

/-! ### Whole URLs -/

/-- The port that is written is not the usual one. -/
def Canonical (u : Url) : Prop :=
  Unusual u.scheme u.port?

theorem withPath_canonical (h : Canonical u) : Canonical (withPath kind u s) := by
  unfold withPath
  split
  · exact h
  · extract_lets behindRoot
    split
    next reading _ _ =>
      cases hdrive : reading.drive with
      | true => exact unusual_none
      | false => exact h

theorem ofFileText_canonical : Yields (ofFileText s) Canonical := by
  unfold ofFileText
  extract_lets behind
  have hbehind : ∀ r, Yields (behind r) Canonical :=
    fun ⟨host, rest⟩ => .ok (withPath_canonical unusual_none)
  split
  · exact .ite (.after hbehind) (.after hbehind)
  · exact .after hbehind

theorem ofString_canonical (text : String) : Yields (ofString text) Canonical := by
  unfold ofString
  split
  · exact .error
  · next scheme rest _ =>
    extract_lets behind
    have hbehind : ∀ s, Yields (behind s) Canonical := fun s =>
      .bind readAuthority_unusual fun ⟨a, rest⟩ hport => .ok (withPath_canonical hport)
    split
    · exact ofFileText_canonical
    · exact hbehind _
    · exact hbehind _
    · exact .ok (withPath_canonical unusual_none)
    · exact .ok unusual_none

/-- So the port to connect to tells URLs of one scheme apart that are written with other ports. -/
theorem effectivePort?_inj {v : Url} (hu : u.Canonical) (hv : v.Canonical)
    (hscheme : u.scheme = v.scheme) : u.effectivePort? = v.effectivePort? ↔ u.port? = v.port? := by
  unfold Canonical at hu hv
  rw [effectivePort?, effectivePort?, hscheme]
  rw [hscheme] at hu
  cases hp : u.port? with
  | none =>
    cases hq : v.port? with
    | none => simp
    | some q => simpa using (hv (by simp [hq]) <| hq.trans ·.symm)
  | some p =>
    cases hq : v.port? with
    | none => simpa using (hu (by simp [hp]) <| hp.trans ·)
    | some q => simp

end Sluice.Url
