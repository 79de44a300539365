import Sluice.Idna.Letters
import Sluice.Text.Canonical

/-! What a label of a host name must satisfy beyond its alphabet.

A label does not begin with a mark; a joiner stands only where letters join through it; and in a
name that holds letters written from right to left, every label keeps to one direction. -/
namespace Sluice.Idna.Label
open Text

/-! ### Joiners -/

def nonJoiner : Nat := 0x200c
def joiner : Nat := 0x200d

/-- The class of signs that strip a consonant of its vowel. -/
def virama : Nat := 9

/-- Whether the first letter that is not joined across is one of these. -/
def meets (letters : List CodeTable) : List Nat → Bool
  | [] => false
  | n :: rest =>
    if letters.any (·.contains n) then true
    else if Letters.transparent.contains n then meets letters rest
    else false

/-- Whether every joiner is in place; the text before is reversed. -/
def joinersHold (before : List Nat) : List Nat → Bool
  | [] => true
  | n :: rest =>
    (if n = nonJoiner || n = joiner then
      (before.head?.any fun m => Canonical.combiningClass m = virama) ||
        (n = nonJoiner && meets [Letters.joinsBoth, Letters.joinsForward] before &&
          meets [Letters.joinsBoth, Letters.joinsBackward] rest)
    else true) && joinersHold (n :: before) rest

/-! ### Direction -/

inductive Direction where
  | left
  | right
  | arabicDigit
  | europeanDigit
  | neutral
  | nonspacing
deriving DecidableEq, Repr

def direction (n : Nat) : Direction :=
  if Letters.rightward.contains n then .right
  else if Letters.arabicDigits.contains n then .arabicDigit
  else if Letters.europeanDigits.contains n then .europeanDigit
  else if Letters.nonspacing.contains n then .nonspacing
  else if Letters.neutral.contains n then .neutral
  else .left

/-- Whether a text makes the rules on direction apply to the whole name. -/
def isRightward (label : List Nat) : Bool :=
  label.any fun n => direction n = .right || direction n = .arabicDigit

/-- The rules on one label: it begins with a letter, ends with a letter or a digit of its
direction, marks aside, and holds nothing of the other direction and one kind of digits. -/
def keepsDirection (label : List Nat) : Bool :=
  let ds := label.map direction
  let last := ds.reverse.find? (· ≠ .nonspacing)
  match ds.head? with
  | none => true
  | some .left =>
    ds.all (fun d => d ≠ .right && d ≠ .arabicDigit)
      && (last = some .left || last = some .europeanDigit)
  | some .right =>
    ds.all (· ≠ .left) && !(ds.contains .arabicDigit && ds.contains .europeanDigit)
      && (last = some .right || last = some .arabicDigit || last = some .europeanDigit)
  | some _ => false

/-- The rules that hold whatever the direction. -/
def wellFormed (label : List Nat) : Bool :=
  !(label.head?.any Letters.marks.contains) && joinersHold [] label

end Sluice.Idna.Label
