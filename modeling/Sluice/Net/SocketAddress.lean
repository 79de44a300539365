import Sluice.Net.Ipv6

/-! Socket addresses: an address and a port.

Only numbers are accepted, no names: `127.0.0.1:80`, or `[fe80::1%2]:80` with the scope of a
link-local address. -/
namespace Sluice.Net

inductive SocketAddress where
  | v4 (address : Ipv4) (port : UInt16)
  | v6 (address : Ipv6) (scope : UInt32) (port : UInt16)
deriving DecidableEq, Repr

namespace SocketAddress

def port : SocketAddress → UInt16
  | v4 _ p => p
  | v6 _ _ p => p

def isLocal : SocketAddress → Bool
  | v4 a _ => a.isLocal
  | v6 a _ _ => a.isLocal

/-- A decimal number below `bound`; leading zeros may stand in front. -/
def below? (bound : Nat) (s : List Char) : Option Nat :=
  match decimal? s with
  | some n => if n < bound then some n else none
  | none => none

def port? (s : List Char) : Option UInt16 :=
  (below? (Nat.pow 2 16) s).map Nat.toUInt16

/-- The address inside brackets, with its scope. -/
def scoped? (s : List Char) : Option (Ipv6 × UInt32) := do
  let address ← Ipv6.ofChars? (s.takeWhile (· ≠ '%'))
  match s.dropWhile (· ≠ '%') with
  | [] => some (address, 0)
  | _ :: scope => return (address, (← below? (Nat.pow 2 32) scope).toUInt32)

def ofString? (s : String) : Option SocketAddress := do
  match s.toList with
  | '[' :: rest =>
    let (address, scope) ← scoped? (rest.takeWhile (· ≠ ']'))
    match rest.dropWhile (· ≠ ']') with
    | ']' :: ':' :: port => return .v6 address scope (← port? port)
    | _ => none
  | rest =>
    let address ← Ipv4.ofChars? (rest.takeWhile (· ≠ ':'))
    match rest.dropWhile (· ≠ ':') with
    | ':' :: port => return .v4 address (← port? port)
    | _ => none

end SocketAddress
end Sluice.Net
