import Sluice.Idna.Domain
import Sluice.Net.Ipv6
import Sluice.Url.Percent

/-! Hosts of URLs.

In the schemes of the web a host is an address in brackets, or a name that is decoded, mapped and
encoded; where its last label is a number, it is an address of version 4, whatever its spelling. In
other schemes it is opaque text. -/
namespace Sluice.Url

/-- Why a text is no URL. -/
inductive Error where
  | emptyHost
  | invalidName
  | invalidPort
  | invalidIpv4
  | invalidIpv6
  | invalidCharacter
  | relative
deriving DecidableEq, Repr

def Error.message : Error → String
  | emptyHost => "empty host"
  | invalidName => "invalid international domain name"
  | invalidPort => "invalid port number"
  | invalidIpv4 => "invalid IPv4 address"
  | invalidIpv6 => "invalid IPv6 address"
  | invalidCharacter => "invalid domain character"
  | relative => "relative URL without a base"

inductive Host where
  | name (text : String)
  | v4 (address : Net.Ipv4)
  | v6 (address : Net.Ipv6)
deriving DecidableEq, Repr

namespace Host

def text : Host → String
  | name s => s
  | v4 a => a.text
  | v6 a => "[" ++ a.text ++ "]"

/-! ### Addresses of version 4 in any spelling -/

/-- A number of any size in base eight, ten or sixteen, by its beginning. -/
def number? (s : List Char) : Option Nat :=
  let (base, digits) := match s with
    | '0' :: 'x' :: rest => (16, rest)
    | '0' :: 'X' :: rest => (16, rest)
    | '0' :: c :: rest => (8, c :: rest)
    | s => (10, s)
  if s.isEmpty then none
  else do
    let ds ← digits.mapM Net.Ipv6.hexDigit?
    if ds.all (· < base) then some (ds.foldl (fun n d => n * base + d) 0) else none

/-- The labels of a name, without the empty one behind a final dot. -/
def labels (s : List Char) : List (List Char) :=
  let all := s.splitOn '.'
  if all.length > 1 && all.getLast? = some [] then all.dropLast else all

/-- Whether the last label is a number, so that the name must be an address. -/
def endsInNumber (s : List Char) : Bool :=
  match (labels s).getLast? with
  | some last => !last.isEmpty && (last.all Char.isDigit || (number? last).isSome)
  | none => false

/-- One to four numbers; the last one fills all octets that are left. -/
def ipv4? (s : List Char) : Option Net.Ipv4 := do
  let numbers ← (labels s).mapM number?
  let front := numbers.dropLast
  let last ← numbers.getLast?
  if front.length ≤ 3 && front.all (· < 256) && last < Nat.pow 256 (4 - front.length) then
    let high := front.foldl (fun n d => n * 256 + d) 0
    some (.ofNat (high * Nat.pow 256 (4 - front.length) + last))
  else none

/-! ### Reading -/

/-- The characters that no name holds. -/
def forbidden (c : Char) : Bool :=
  c ≤ ' ' || c = '\x7f' || "%#/:<>?@[\\]^|".toList.contains c

/-- The address between brackets. -/
def bracketed (s : List Char) : Except Error Host :=
  match s.getLast?, Net.Ipv6.ofChars? s.dropLast with
  | some ']', some a => .ok (.v6 a)
  | _, _ => .error .invalidIpv6

/-- A host in the schemes of the web. -/
def ofChars (s : List Char) : Except Error Host :=
  match s with
  | '[' :: rest => bracketed rest
  | s =>
    match (Percent.decode? s).bind (Idna.toAscii? forbidden) with
    | none => .error .invalidName
    | some ascii =>
      if ascii.isEmpty then .error .emptyHost
      else if endsInNumber ascii.toList then
        match ipv4? ascii.toList with
        | some a => .ok (.v4 a)
        | none => .error .invalidIpv4
      else .ok (.name ascii)

/-- The characters that no opaque host holds. -/
def forbiddenOpaque (c : Char) : Bool :=
  "\x00\t\n\r #/:<>?@[\\]^|".toList.contains c

/-- A host in any other scheme; an empty one is no host. -/
def ofOpaque (s : List Char) : Except Error (Option Host) :=
  match s with
  | [] => .ok none
  | '[' :: rest => (bracketed rest).map some
  | s =>
    if s.any forbiddenOpaque then .error .invalidCharacter
    else .ok (some (.name (String.ofList (Percent.encode Percent.inAnyPart s))))

end Host
end Sluice.Url
