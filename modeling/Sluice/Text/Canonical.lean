import Sluice.Text.CanonicalData

/-! The composed normal form of a text.

A text is taken apart into characters that cannot be taken apart further, marks on one letter are
put into the order of their classes, and what can be written as one character is put together
again. Syllables of Hangul follow from arithmetic, all else from tables. -/
namespace Sluice.Text.Canonical

/-! ### Hangul -/

def firstSyllable : Nat := 0xac00
def lastSyllable : Nat := 0xd7a3
def firstLeading : Nat := 0x1100
def firstVowel : Nat := 0x1161
/-- One before the first trailing consonant. -/
def noTrailing : Nat := 0x11a7
def vowels : Nat := 21
def trailings : Nat := 28

/-- The parts of a syllable: consonant and vowel, or a syllable without its last consonant and
that consonant. -/
def syllableParts (n : Nat) : List Nat :=
  let index := n - firstSyllable
  if index % trailings = 0 then
    let pair := index / trailings
    [firstLeading + pair / vowels, firstVowel + pair % vowels]
  else [n - index % trailings, noTrailing + index % trailings]

def isSyllable (n : Nat) : Bool :=
  firstSyllable ≤ n && n ≤ lastSyllable

/-- The syllable that two parts make. -/
def syllable? (a b : Nat) : Option Nat :=
  if firstLeading ≤ a && a < firstLeading + 19 && firstVowel ≤ b && b < firstVowel + vowels then
    some (firstSyllable + ((a - firstLeading) * vowels + (b - firstVowel)) * trailings)
  else if isSyllable a && (a - firstSyllable) % trailings = 0
      && noTrailing < b && b < noTrailing + trailings then
    some (a + (b - noTrailing))
  else none

/-! ### Taking apart -/

/-- The combining class; starters have class zero. -/
def combiningClass (n : Nat) : Nat :=
  (classes.value? n).getD 0

/-- What a character is made of, one step. -/
def parts (n : Nat) : List Nat :=
  if isSyllable n then syllableParts n
  else match composites.row? n with
    | some r => r.values
    | none => match decomposables.row? n with
      | some r => r.values
      | none => [n]

/-- No character is nested deeper than this. -/
def depth : Nat := 4

def decompose (s : List Nat) : List Nat :=
  Nat.repeat (·.flatMap parts) depth s

/-- Moves a mark before the marks of higher classes; the text is reversed. -/
def settle (n : Nat) : List Nat → List Nat
  | [] => [n]
  | m :: rest =>
    if 0 < combiningClass n && combiningClass n < combiningClass m then m :: settle n rest
    else n :: m :: rest

def order (s : List Nat) : List Nat :=
  (s.foldl (fun done n => settle n done) []).reverse

/-! ### Putting together -/

/-- The character that two make. -/
def composite? (a b : Nat) : Option Nat :=
  match syllable? a b with
  | some n => some n
  | none => (composites.rows.find? (·.values = [a, b])).map (·.low)

/-- What has been put together: the text before the last starter, that starter, and the marks that
stayed apart from it. Both lists are reversed. -/
structure Composing where
  done : List Nat
  starter : Option Nat
  apart : List Nat

def Composing.flush (s : Composing) : List Nat :=
  s.apart ++ s.starter.toList ++ s.done

/-- A mark that stayed apart keeps out every mark behind it of no higher class. -/
def Composing.blocked (s : Composing) (n : Nat) : Bool :=
  match s.apart with
  | [] => false
  | m :: _ => combiningClass n ≤ combiningClass m

def Composing.next (s : Composing) (n : Nat) : Composing :=
  let joined := if s.blocked n then none else s.starter.bind (composite? · n)
  match joined with
  | some c => { s with starter := some c }
  | none =>
    if combiningClass n = 0 then ⟨s.flush, some n, []⟩ else { s with apart := n :: s.apart }

def compose (s : List Nat) : List Nat :=
  (s.foldl Composing.next ⟨[], none, []⟩).flush.reverse

/-- The composed normal form. -/
def normalize (s : List Nat) : List Nat :=
  compose (order (decompose s))

end Sluice.Text.Canonical
