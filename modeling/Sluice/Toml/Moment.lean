import Sluice.Net.Ipv4
import Sluice.Toml.Lexical

/-! Dates and times in configuration files.

A date, a time of day, or a date with a time and an offset. They are checked against the calendar
and the clock, which knows a leap second, and not kept. -/
namespace Sluice.Toml.Moment

/-- This many digits, as a number between two bounds. -/
def field? (digits low high : Nat) (s : List Char) : Option (Nat × List Char) := do
  let n ← Net.decimal? (s.take digits)
  if (s.take digits).length = digits ∧ low ≤ n ∧ n ≤ high then some (n, s.drop digits) else none

def isLeap (year : Nat) : Bool :=
  year % 4 = 0 && (year % 100 ≠ 0 || year % 400 = 0)

def daysIn (year month : Nat) : Nat :=
  if month = 2 then if isLeap year then 29 else 28
  else if [4, 6, 9, 11].contains month then 30
  else 31

/-- What follows a date. -/
def date? (s : List Char) : Option (List Char) := do
  let (year, s) ← field? 4 0 9999 s
  let (month, s) ← field? 2 1 12 (← dropMark? '-' s)
  let (_, s) ← field? 2 1 (daysIn year month) (← dropMark? '-' s)
  return s

/-- What follows the fraction of a second, if there is one. -/
def dropFraction (s : List Char) : List Char :=
  match s with
  | '.' :: c :: rest => if c.isDigit then rest.dropWhile Char.isDigit else s
  | s => s

/-- What follows a time of day. -/
def time? (s : List Char) : Option (List Char) := do
  let (_, s) ← field? 2 0 23 s
  let (_, s) ← field? 2 0 59 (← dropMark? ':' s)
  let (_, s) ← field? 2 0 60 (← dropMark? ':' s)
  return dropFraction s

/-- What follows an offset, if there is one. -/
def dropOffset? (s : List Char) : Option (List Char) :=
  match s with
  | c :: rest =>
    if c = 'Z' ∨ c = 'z' then some rest
    else if c = '+' ∨ c = '-' then do
      let (_, s) ← field? 2 0 23 rest
      let (_, s) ← field? 2 0 59 (← dropMark? ':' s)
      return s
    else some s
  | [] => some []

/-- What follows the time of day behind a date, if there is one. -/
def dropTime? (s : List Char) : Option (List Char) :=
  match s with
  | c :: rest =>
    if c = 'T' ∨ c = 't' ∨ c = ' ' then
      match time? rest with
      | some rest => dropOffset? rest
      | none => some s
    else some s
  | [] => some []

/-- What follows a date, a time, or both. -/
def read? (s : List Char) : Option (List Char) :=
  match date? s with
  | some rest => dropTime? rest
  | none => time? s

end Sluice.Toml.Moment
