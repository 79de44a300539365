import Sluice.Net.Ipv6

/-! Percent signs: what is written with them in each part of a URL, and reading them back. -/
namespace Sluice.Url.Percent

/-- Controls, and everything beyond ASCII. -/
def inAnyPart (c : Char) : Bool :=
  c < ' ' || '~' < c

def inFragment (c : Char) : Bool :=
  inAnyPart c || " \"<>`".toList.contains c

def inPath (c : Char) : Bool :=
  inFragment c || "#?\x7b\x7d".toList.contains c

def inUserinfo (c : Char) : Bool :=
  inPath c || "/:;=@[\\]^|".toList.contains c

def inQuery (c : Char) : Bool :=
  inAnyPart c || " \"#<>".toList.contains c

/-- Where the scheme is special, an apostrophe is encoded, too. -/
def inSpecialQuery (c : Char) : Bool :=
  inQuery c || c = '\''

def upperDigit (n : Nat) : Char :=
  (Nat.digitChar n).toUpper

def byte (b : UInt8) : List Char :=
  ['%', upperDigit (b.toNat / 16), upperDigit (b.toNat % 16)]

/-- The bytes of a character, each behind a percent sign. -/
def char (c : Char) : List Char :=
  (String.singleton c).toUTF8.toList.flatMap byte

def encodeChar (encoded : Char → Bool) (c : Char) : List Char :=
  if encoded c then char c else [c]

def encode (encoded : Char → Bool) (s : List Char) : List Char :=
  s.flatMap (encodeChar encoded)

/-- The bytes that a text stands for; a percent sign without two digits behind it is itself. -/
def bytes : List Char → List UInt8
  | '%' :: a :: b :: rest =>
    match Net.Ipv6.hexDigit? a, Net.Ipv6.hexDigit? b with
    | some h, some l => (h * 16 + l).toUInt8 :: bytes rest
    | _, _ => '%'.toUInt8 :: bytes (a :: b :: rest)
  | c :: rest => (String.singleton c).toUTF8.toList ++ bytes rest
  | [] => []

/-- The text behind the percent signs, if its bytes are text. -/
def decode? (s : List Char) : Option (List Char) :=
  (String.fromUTF8? (ByteArray.mk (bytes s).toArray)).map String.toList

end Sluice.Url.Percent
