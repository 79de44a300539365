import Sluice.Decimal.Shortest
import Sluice.Net.Ipv6
import Sluice.Toml.Lexical
import Sluice.Toml.Tree

/-! Numbers in configuration files.

An underscore may stand between two digits. Integers have 64 bits and a sign; in base sixteen, eight
and two they have neither sign nor capital letter in front. Numbers with a point or an exponent are
floating; one that is too great is refused. -/
namespace Sluice.Toml.Number

/-- Digits for which `ok` holds, an underscore between two of them at most: the digits, and the
rest. -/
def digits? (ok : Char → Bool) : Reader (List Char)
  | c :: '_' :: rest =>
    if ok c then (digits? ok rest).map fun (ds, rest) => (c :: ds, rest) else none
  | c :: rest =>
    if ok c then
      match digits? ok rest with
      | some (ds, rest) => some (c :: ds, rest)
      | none => some ([c], rest)
    else none
  | [] => none

def value (base : Nat) (ds : List Char) : Nat :=
  ds.foldl (fun n d => n * base + (Net.Ipv6.hexDigit? d).getD 0) 0

/-- The sign in front, if any. -/
def sign : List Char → Bool × List Char
  | '+' :: rest => (false, rest)
  | '-' :: rest => (true, rest)
  | rest => (false, rest)

/-- A decimal number without zeros in front. -/
def whole? (s : List Char) : Option (List Char × List Char) :=
  match s with
  | '0' :: rest => some (['0'], rest)
  | s => digits? Char.isDigit s

/-- The number, if 64 bits hold it. -/
def range (n : Int) : Option Int :=
  if -Nat.pow 2 63 ≤ n ∧ n < Nat.pow 2 63 then some n else none

def digitOf (base : Nat) (c : Char) : Bool :=
  (Net.Ipv6.hexDigit? c).any (· < base)

def basedInteger? (base : Nat) (s : List Char) : Option (Value × List Char) := do
  let (ds, rest) ← digits? (digitOf base) s
  return (.integer (← range (value base ds)), rest)

def integer? : Reader Value
  | '0' :: 'x' :: rest => basedInteger? 16 rest
  | '0' :: 'o' :: rest => basedInteger? 8 rest
  | '0' :: 'b' :: rest => basedInteger? 2 rest
  | s => do
    let (negative, s) := sign s
    let (ds, rest) ← whole? s
    let n : Int := value 10 ds
    return (.integer (← range (if negative then -n else n)), rest)

/-! ### Floating-point numbers -/

/-- The digits behind a point. -/
def fraction? : Reader (List Char)
  | '.' :: rest => digits? Char.isDigit rest
  | _ => none

def exponent? : Reader Int
  | c :: rest =>
    if c = 'e' ∨ c = 'E' then do
      let (negative, rest) := sign rest
      let (ds, rest) ← digits? Char.isDigit rest
      let n : Int := value 10 ds
      return (if negative then -n else n, rest)
    else none
  | [] => none

def isTooGreat (x : Float) : Bool :=
  x.isInf && x > 0

def nearest? (negative : Bool) (ds : List Char) (exponent : Int) : Option Value :=
  let x := Decimal.nearest negative (value 10 ds) exponent
  if isTooGreat x then none else some (.float x)

/-- A number with a point, an exponent or both. -/
def pointed? (s : List Char) : Option (Value × List Char) := do
  let (negative, s) := sign s
  let (front, s) ← whole? s
  match fraction? s with
  | some (back, rest) =>
    let (e, rest) := (exponent? rest).getD (0, rest)
    return (← nearest? negative (front ++ back) (e - back.length), rest)
  | none =>
    let (e, rest) ← exponent? s
    return (← nearest? negative front e, rest)

/-- Infinity and the number that is none. -/
def named? (s : List Char) : Option (Value × List Char) :=
  let (negative, s) := sign s
  let signed (x : Float) : Value := .float (if negative then -x else x)
  match dropWord? "inf" s with
  | some rest => some (signed (1 / 0), rest)
  | none => (dropWord? "nan" s).map fun rest => (signed (0 / 0), rest)

def float? (s : List Char) : Option (Value × List Char) :=
  (pointed? s).orElse fun _ => named? s

end Sluice.Toml.Number
