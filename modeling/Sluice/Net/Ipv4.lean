/-! Addresses of version 4, and their dotted form.

The dotted form has four decimal numbers below 256, each of at most three digits and without a
leading zero. -/
namespace Sluice.Net

/-- Four octets, the leading one first. -/
structure Ipv4 where
  octets : Vector UInt8 4
deriving DecidableEq, Repr

/-- The number that a run of decimal digits stands for; `none` for an empty run and for anything
that is not a digit. -/
def decimal? (s : List Char) : Option Nat :=
  if !s.isEmpty && s.all Char.isDigit then
    some (s.foldl (fun n c => n * 10 + (c.toNat - '0'.toNat)) 0)
  else none

namespace Ipv4

def any : Ipv4 := ⟨#v[0, 0, 0, 0]⟩

/-- The address with this number. -/
def ofNat (n : Nat) : Ipv4 :=
  ⟨#v[(n / Nat.pow 2 24).toUInt8, (n / Nat.pow 2 16).toUInt8, (n / Nat.pow 2 8).toUInt8,
    n.toUInt8]⟩

def text (a : Ipv4) : String :=
  ".".intercalate (a.octets.toList.map fun o => toString o.toNat)

/-- A decimal number below 256 without a leading zero. -/
def octet? (s : List Char) : Option UInt8 :=
  match decimal? s with
  | some n => if s.length ≤ 3 && n < 256 && (s.length = 1 || s.head? ≠ some '0') then some n.toUInt8
    else none
  | none => none

/-- The dotted form, strictly. -/
def ofChars? (s : List Char) : Option Ipv4 :=
  match (s.splitOn '.').mapM octet? with
  | some [a, b, c, d] => some ⟨#v[a, b, c, d]⟩
  | _ => none

/-- Whether the address names this machine or all of its interfaces. -/
def isLocal (a : Ipv4) : Bool :=
  a = any || a.octets[0] = 127

end Ipv4
end Sluice.Net
