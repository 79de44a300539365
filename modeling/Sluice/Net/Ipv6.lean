import Sluice.Net.Ipv4
import Sluice.Text.Quoted

/-! Addresses of version 6, and their written form.

Eight groups of at most four hexadecimal digits stand between colons; two colons in a row stand for
one group of zeros or more, and the last two groups may be an address of version 4. When written,
the longest run of at least two zero groups is shortened, the first of several. -/
namespace Sluice.Net

/-- Eight groups, the leading one first. -/
structure Ipv6 where
  groups : Vector UInt16 8
deriving DecidableEq, Repr

namespace Ipv6

def any : Ipv6 := ⟨.replicate 8 0⟩
def loopback : Ipv6 := ⟨#v[0, 0, 0, 0, 0, 0, 0, 1]⟩

/-! ### Reading -/

def hexDigit? (c : Char) : Option Nat :=
  if '0' ≤ c && c ≤ '9' then some (c.toNat - '0'.toNat)
  else if 'a' ≤ c && c ≤ 'f' then some (c.toNat - 'a'.toNat + 10)
  else if 'A' ≤ c && c ≤ 'F' then some (c.toNat - 'A'.toNat + 10)
  else none

/-- One to four hexadecimal digits. -/
def group? (s : List Char) : Option UInt16 :=
  if 1 ≤ s.length && s.length ≤ 4 then
    (s.mapM hexDigit?).map fun ds => (ds.foldl (fun n d => n * 16 + d) 0).toUInt16
  else none

/-- The two groups of an embedded address. -/
def groupsOfIpv4 (a : Ipv4) : List UInt16 :=
  let word (high low : UInt8) := high.toUInt16 * 256 + low.toUInt16
  [word (a.octets.get 0) (a.octets.get 1), word (a.octets.get 2) (a.octets.get 3)]

/-- Groups between colons; only the last may be an embedded address, and only where `v4` allows. -/
def pieces? (v4 : Bool) : List (List Char) → Option (List UInt16)
  | [] => some []
  | [last] =>
    match group? last with
    | some g => some [g]
    | none => if v4 then (Ipv4.ofChars? last).map groupsOfIpv4 else none
  | piece :: rest => return (← group? piece) :: (← pieces? v4 rest)

/-- A run of groups, possibly empty. -/
def run? (v4 : Bool) (s : List Char) : Option (List UInt16) :=
  if s.isEmpty then some [] else pieces? v4 (s.splitOn ':')

/-- What stands before and behind the first two colons in a row. -/
def splitGap : List Char → Option (List Char × List Char)
  | ':' :: ':' :: rest => some ([], rest)
  | c :: rest => (splitGap rest).map fun (a, b) => (c :: a, b)
  | [] => none

def ofGroups? (gs : List UInt16) : Option Ipv6 :=
  if h : gs.toArray.size = 8 then some ⟨⟨gs.toArray, h⟩⟩ else none

def ofChars? (s : List Char) : Option Ipv6 := do
  match splitGap s with
  | none => ofGroups? (← pieces? true (s.splitOn ':'))
  | some (front, back) =>
    let front ← run? false front
    let back ← run? true back
    if front.length + back.length < 8 then
      ofGroups? (front ++ List.replicate (8 - front.length - back.length) 0 ++ back)
    else none

/-! ### Writing -/

/-- The lengths of the runs of zero groups that begin at each position. -/
def zeroRuns : List UInt16 → List Nat
  | [] => []
  | g :: rest =>
    let runs := zeroRuns rest
    (if g = 0 then runs.head?.getD 0 + 1 else 0) :: runs

/-- Where the run to shorten begins and how long it is. -/
def gap? (gs : List UInt16) : Option (Nat × Nat) :=
  let runs := zeroRuns gs
  let longest := runs.foldl max 0
  if longest < 2 then none else some (runs.findIdx (· = longest), longest)

def joinGroups (gs : List UInt16) : String :=
  ":".intercalate (gs.map fun g => String.ofList (Text.hex g.toNat))

def text (a : Ipv6) : String :=
  let gs := a.groups.toList
  match gap? gs with
  | none => joinGroups gs
  | some (start, length) =>
    joinGroups (gs.take start) ++ "::" ++ joinGroups (gs.drop (start + length))

/-- Whether the address names this machine or all of its interfaces. -/
def isLocal (a : Ipv6) : Bool :=
  a = any || a = loopback

end Ipv6
end Sluice.Net
