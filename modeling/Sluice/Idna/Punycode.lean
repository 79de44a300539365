/-! Text beyond ASCII in the letters, digits and hyphens of host names.

The characters of ASCII come first, a hyphen behind them if there are any. Then follow the others
in the order of their code points, each as the distance from the one before, counted over all
places where a character can stand. A distance is written with letters and digits in a base whose
threshold adapts to the distances so far. -/
namespace Sluice.Idna.Punycode

def base : Nat := 36
def firstCode : Nat := 128
def firstBias : Nat := 72

def digitChar (d : Nat) : Char :=
  if d < 26 then Char.ofNat ('a'.toNat + d) else Char.ofNat ('0'.toNat + d - 26)

def digit? (c : Char) : Option Nat :=
  if 'a' ≤ c && c ≤ 'z' then some (c.toNat - 'a'.toNat)
  else if 'A' ≤ c && c ≤ 'Z' then some (c.toNat - 'A'.toNat)
  else if '0' ≤ c && c ≤ '9' then some (c.toNat - '0'.toNat + 26)
  else none

/-- The threshold of the digit at weight position `k`. -/
def threshold (k bias : Nat) : Nat :=
  if k ≤ bias then 1 else if bias + 26 ≤ k then 26 else k - bias

theorem threshold_pos (k bias : Nat) : 1 ≤ threshold k bias := by
  unfold threshold; split
  · omega
  · split <;> omega

/-- Scales a distance down, counting the steps in `k`. -/
def damped (delta k : Nat) : Nat :=
  if 455 < delta then damped (delta / 35) (k + base) else k + base * delta / (delta + 38)
termination_by delta
decreasing_by exact Nat.div_lt_self (by omega) (by omega)

/-- The bias after a distance, with `count` characters placed. -/
def adapt (delta count : Nat) (first : Bool) : Nat :=
  let delta := if first then delta / 700 else delta / 2
  damped (delta + delta / count) 0

/-! ### Writing -/

/-- The digits of a distance. -/
def digits (bias k delta : Nat) : List Char :=
  let t := threshold k bias
  if delta < t then [digitChar delta]
  else digitChar (t + (delta - t) % (base - t)) :: digits bias (k + base) ((delta - t) / (base - t))
termination_by delta
decreasing_by
  have := threshold_pos k bias
  exact Nat.lt_of_le_of_lt (Nat.div_le_self _ _) (by omega)

structure Writer where
  out : List Char
  delta : Nat
  bias : Nat
  placed : Nat

/-- One character of the text, while those with code point `n` are being placed. -/
def Writer.visit (basic n : Nat) (w : Writer) (c : Nat) : Writer :=
  if c < n then { w with delta := w.delta + 1 }
  else if c = n then
    { out := w.out ++ digits w.bias base w.delta
      delta := 0
      bias := adapt w.delta (w.placed + 1) (w.placed = basic)
      placed := w.placed + 1 }
  else w

/-- Places the code points given, in ascending order, from `n` on. -/
def place (text : List Nat) (basic : Nat) : List Nat → Nat → Writer → Writer
  | [], _, w => w
  | m :: rest, n, w =>
    let w := { w with delta := w.delta + (m - n) * (w.placed + 1) }
    let w := text.foldl (Writer.visit basic m) w
    place text basic rest (m + 1) { w with delta := w.delta + 1 }

def encode (text : List Nat) : List Char :=
  let basic := (text.filter (· < firstCode)).map Char.ofNat
  let others := ((text.filter (firstCode ≤ ·)).mergeSort).eraseDups
  let front := if basic.isEmpty then [] else basic ++ ['-']
  (place text basic.length others firstCode ⟨front, 0, firstBias, basic.length⟩).out

/-! ### Reading -/

/-- A number that no distance and no position reaches. -/
def limit : Nat := Nat.pow 2 32

/-- Reads one distance and adds it to `i`: the sum, and the text behind it. -/
def readDistance (bias : Nat) : List Char → Nat → Nat → Nat → Option (Nat × List Char)
  | [], _, _, _ => none
  | c :: rest, k, weight, i =>
    match digit? c with
    | none => none
    | some d =>
      let i := i + d * weight
      let t := threshold k bias
      if limit ≤ i then none
      else if d < t then some (i, rest)
      else if limit ≤ weight * (base - t) then none
      else readDistance bias rest (k + base) (weight * (base - t)) i

theorem readDistance_length {bias : Nat} {s rest : List Char} {k weight i j : Nat}
    (h : readDistance bias s k weight i = some (j, rest)) : rest.length < s.length := by
  induction s generalizing k weight i with
  | nil => simp [readDistance] at h
  | cons c s ih =>
    unfold readDistance at h
    split at h
    · cases h
    · simp only at h
      split at h
      · cases h
      · split at h
        · cases h; exact Nat.lt_succ_self _
        · split at h
          · cases h
          · exact Nat.lt_succ_of_lt (ih h)

/-- Places one character after another; `i` counts code points and positions together. -/
def placeAll (s : List Char) (n i bias : Nat) (out : List Nat) : Option (List Nat) :=
  if s.isEmpty then some out
  else
    match _h : readDistance bias s base 1 i with
    | none => none
    | some (j, rest) =>
      let size := out.length + 1
      let code := n + j / size
      if Nat.isValidChar code then
        placeAll rest code (j % size + 1) (adapt (j - i) size (i = 0))
          (out.insertIdx (j % size) code)
      else none
termination_by s.length
decreasing_by exact readDistance_length _h

/-- The text that letters, digits and hyphens stand for. -/
def decode (s : List Char) : Option (List Nat) :=
  let back := (s.reverse.takeWhile (· ≠ '-')).reverse
  let front := s.take (s.length - back.length - 1)
  let rest := if front.isEmpty then s else back
  placeAll rest firstCode 0 firstBias (front.map Char.toNat)

end Sluice.Idna.Punycode
