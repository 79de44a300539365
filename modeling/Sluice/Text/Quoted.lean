import Sluice.Text.Glyphs

/-! Quoted text, as messages show a value that came from outside.

A quote and a backslash carry a backslash, four controls have a name, and every other character
that shows no glyph of its own, or would merge with the one before it, is written by its code point
in hexadecimal. -/
namespace Sluice.Text

/-- The digits of a number in lower-case hexadecimal. -/
def hex (n : Nat) : List Char :=
  Nat.toDigits 16 n

namespace Quoted

/-- Whether a character stands for itself inside quotes. -/
def plain (c : Char) : Bool :=
  if c.toNat < 0x7f then 0x20 ≤ c.toNat
  else !Glyphs.extending.contains c && !Glyphs.invisible.contains c

def escape (c : Char) : List Char :=
  match c with
  | '\x00' => ['\\', '0']
  | '\t' => ['\\', 't']
  | '\n' => ['\\', 'n']
  | '\r' => ['\\', 'r']
  | '\\' => ['\\', '\\']
  | '"' => ['\\', '"']
  | c => if plain c then [c] else '\\' :: 'u' :: '\x7b' :: hex c.toNat ++ ['\x7d']

end Quoted

/-- The text between quotes, with whatever would not show escaped. -/
def quoted (s : String) : String :=
  String.ofList ('"' :: s.toList.flatMap Quoted.escape ++ ['"'])

end Sluice.Text
