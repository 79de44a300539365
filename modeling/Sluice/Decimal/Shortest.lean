/-! The fewest decimal digits that read back as a floating-point number.

A finite number of 64 bits stands for all reals that round to it. Grids of ever more digits are
tried until a neighbour of the number on the grid is one of those reals; of two such neighbours the
nearer is taken, and the greater where both are equally near. -/
namespace Sluice.Decimal

/-- The magnitude `mantissa * 2 ^ exponent`; below a power of two the numbers lie closer. -/
structure Binary where
  mantissa : Nat
  exponent : Int
  narrow : Bool
deriving DecidableEq, Repr

/-- The magnitude `digits * 10 ^ exponent`. -/
structure Digits where
  digits : Nat
  exponent : Int
deriving DecidableEq, Repr

/-- The magnitude behind the bits of a finite number. -/
def Binary.ofBits (bits : UInt64) : Binary :=
  let exponent : Nat := (bits.toNat / Nat.pow 2 52) % Nat.pow 2 11
  let fraction := bits.toNat % Nat.pow 2 52
  if exponent = 0 then ⟨fraction, -1074, false⟩
  else ⟨Nat.pow 2 52 + fraction, (exponent : Int) - 1075, fraction = 0 && exponent ≠ 1⟩

/-- Compares `a * 10 ^ i` with `b * 2 ^ j`. -/
def compareScaled (a : Nat) (i : Int) (b : Nat) (j : Int) : Ordering :=
  compare (a * Nat.pow 10 i.toNat * Nat.pow 2 (-j).toNat)
    (b * Nat.pow 2 j.toNat * Nat.pow 10 (-i).toNat)

/-- Whether a decimal rounds to the number: it lies between the midpoints to the neighbours, which
belong to the number whose mantissa is even. -/
def Binary.readsBack (x : Binary) (d : Digits) : Bool :=
  let low := if x.narrow then 4 * x.mantissa - 1 else 4 * x.mantissa - 2
  let high := 4 * x.mantissa + 2
  let closed := x.mantissa % 2 = 0
  let atLow := compareScaled d.digits d.exponent low (x.exponent - 2)
  let atHigh := compareScaled d.digits d.exponent high (x.exponent - 2)
  (atLow = .gt || (closed && atLow = .eq)) && (atHigh = .lt || (closed && atHigh = .eq))

/-- The whole part of the number on the grid of `10 ^ k`. -/
def Binary.onGrid (x : Binary) (k : Int) : Nat :=
  (x.mantissa * Nat.pow 2 x.exponent.toNat * Nat.pow 10 (-k).toNat) /
    (Nat.pow 2 (-x.exponent).toNat * Nat.pow 10 k.toNat)

/-- The nearest neighbour on a grid that reads back. -/
def Binary.onGrid? (x : Binary) (k : Int) : Option Digits :=
  let below : Digits := ⟨x.onGrid k, k⟩
  let above : Digits := ⟨x.onGrid k + 1, k⟩
  match x.readsBack below, x.readsBack above with
  | false, false => none
  | true, false => some below
  | false, true => some above
  | true, true =>
    -- Twice the number against the sum of the two.
    if compareScaled (below.digits + above.digits) k (2 * x.mantissa) x.exponent = .gt then
      some below
    else some above

/-- The power of ten just above the number. -/
def Binary.scale (x : Binary) : Int :=
  let bound := (Nat.log2 x.mantissa : Int) + x.exponent
  let guess := bound * 30103 / 100000
  let powers := (List.range 4).map fun (i : Nat) => guess + (i : Int)
  (powers.find? fun k => compareScaled 1 k x.mantissa x.exponent = .gt).getD (guess + 4)

/-- Zeros at the end belong to the exponent. -/
def Digits.stripped (d : Digits) : Digits :=
  if d.digits ≠ 0 ∧ d.digits % 10 = 0 then stripped ⟨d.digits / 10, d.exponent + 1⟩ else d
termination_by d.digits
decreasing_by omega

/-- More digits are never needed. -/
def maxDigits : Nat := 17

/-- The fewest digits, for a number other than zero. -/
def Binary.shortest (x : Binary) : Digits :=
  let grids := (List.range maxDigits).map fun (i : Nat) => x.scale - (i + 1 : Int)
  let exact : Digits :=
    ⟨x.mantissa * Nat.pow 5 (-x.exponent).toNat * Nat.pow 2 x.exponent.toNat, min 0 x.exponent⟩
  ((grids.findSome? x.onGrid?).getD exact).stripped

/-- Digits without an exponent, with one place behind the point at least. -/
def Digits.positional (d : Digits) : String :=
  let shown := Nat.toDigits 10 d.digits
  if d.exponent ≥ 0 then String.ofList (shown ++ List.replicate d.exponent.toNat '0') ++ ".0"
  else
    let places := (-d.exponent).toNat
    let padded := List.replicate (places + 1 - shown.length) '0' ++ shown
    let whole := padded.take (padded.length - places)
    String.ofList whole ++ "." ++ String.ofList (padded.drop whole.length)

/-- A floating-point number in full: no exponent, and a point always. -/
def floatText (x : Float) : String :=
  if x.isNaN then "NaN"
  else
    let sign := if x.toBits.toNat ≥ Nat.pow 2 63 then "-" else ""
    if x.isInf then sign ++ "inf"
    else if x == 0 then sign ++ "0.0"
    else sign ++ (Binary.ofBits x.toBits).shortest.positional

/-- The number nearest to a decimal, whatever its size. -/
def nearest (negative : Bool) (digits : Nat) (exponent : Int) : Float :=
  let size := (Nat.toDigits 10 digits).length + exponent
  let magnitude : Float :=
    if digits = 0 || size < -400 then 0
    else if size > 400 then 1 / 0
    else .ofScientific digits (exponent < 0) exponent.natAbs
  if negative then -magnitude else magnitude

end Sluice.Decimal
