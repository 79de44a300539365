/-! Blanks, line ends and comments of configuration files.

A reader takes a text and gives what it has read with the rest, or nothing where the text does not
begin as it should. -/
namespace Sluice.Toml

abbrev Reader (α : Type) := List Char → Option (α × List Char)

def isBlank (c : Char) : Bool :=
  c = ' ' || c = '\t'

/-- What may stand in a comment and in a text: no controls but the tab. -/
def isPlain (c : Char) : Bool :=
  c = '\t' || (' ' ≤ c && c ≠ '\x7f')

def dropBlanks (s : List Char) : List Char :=
  s.dropWhile isBlank

/-- A line end: a line feed, with a carriage return before it or not. -/
def newline? : List Char → Option (List Char)
  | '\n' :: rest => some rest
  | '\r' :: '\n' :: rest => some rest
  | _ => none

/-- A line end, or the end of the text. -/
def lineEnd? (s : List Char) : Option (List Char) :=
  if s.isEmpty then some [] else newline? s

/-- The text without the comment at its beginning, if there is one. -/
def dropComment (s : List Char) : List Char :=
  match s with
  | '#' :: rest => rest.dropWhile isPlain
  | s => s

/-- What may follow on a line: blanks and a comment. -/
def endOfLine? (s : List Char) : Option (List Char) :=
  lineEnd? (dropComment (dropBlanks s))

/-- Drops blanks, line ends and whole lines of comment, `bound` times at most. -/
def dropLines : Nat → List Char → Option (List Char)
  | 0, s => some s
  | bound + 1, s =>
    match dropBlanks s with
    | '#' :: rest => (newline? (rest.dropWhile isPlain)).bind (dropLines bound)
    | '\n' :: rest => dropLines bound rest
    | '\r' :: rest => (newline? ('\r' :: rest)).bind (dropLines bound)
    | rest => some rest

/-- Drops everything that may stand between the items of an array. -/
def dropFiller (s : List Char) : Option (List Char) :=
  dropLines (s.length + 1) s

def dropMark? (mark : Char) : List Char → Option (List Char)
  | c :: rest => if c = mark then some rest else none
  | [] => none

/-- The text behind a word. -/
def dropWord? (word : String) (s : List Char) : Option (List Char) :=
  if word.toList.isPrefixOf s then some (s.drop word.length) else none

end Sluice.Toml
