import Sluice.Toml.Moment
import Sluice.Toml.Number
import Sluice.Toml.Quotation
import Sluice.Toml.Tree

/-! Whole configuration files.

A file is a sequence of lines: headers of tables, keys with values, comments, and blanks. Arrays
and tables within a value are nested less than eighty deep, and a key has fewer than eighty
parts. -/
namespace Sluice.Toml

/-! ### Keys -/

/-- Neither a key nor a value goes deeper. -/
def depthLimit : Nat := 80

def isBareChar (c : Char) : Bool :=
  c.isAlphanum || c = '-' || c = '_'

def keyPart? (s : List Char) : Option (String × List Char) :=
  match s with
  | c :: _ =>
    if c = '"' ∨ c = '\'' then Quotation.line? s
    else if isBareChar c then
      some (String.ofList (s.takeWhile isBareChar), s.dropWhile isBareChar)
    else none
  | [] => none

/-- The parts of a key between dots and blanks. -/
def keyParts? : Nat → Reader (List String)
  | 0, _ => none
  | bound + 1, s => do
    let (part, rest) ← keyPart? (dropBlanks s)
    match dropBlanks rest with
    | '.' :: rest => do
      let (parts, rest) ← keyParts? bound rest
      return (part :: parts, rest)
    | rest => return ([part], rest)

/-- A key: the path and the last part. -/
def key? (s : List Char) : Option ((List String × String) × List Char) := do
  let (parts, rest) ← keyParts? (depthLimit - 1) s
  return ((parts.dropLast, ← parts.getLast?), rest)

/-! ### Values -/

/-- A key, an equals sign, and what `value` reads. -/
def pair? (value : Reader Value) (s : List Char) :
    Option ((List String × String × Value) × List Char) := do
  let ((path, key), s) ← key? s
  let (v, s) ← value (dropBlanks (← dropMark? '=' s))
  return ((path, key, v), s)

/-- The items of an array behind its opening bracket, `bound` at most. A comma may follow the last
one. -/
def items? (value : Reader Value) : Nat → Reader (List Value)
  | 0, _ => none
  | bound + 1, s => do
    match ← dropFiller s with
    | ']' :: rest => return ([], rest)
    | s => do
      let (v, s) ← value s
      match ← dropFiller s with
      | ',' :: rest => do
        let (vs, rest) ← items? value bound rest
        return (v :: vs, rest)
      | ']' :: rest => return ([v], rest)
      | _ => none

/-- The pairs of a table in braces, behind its opening brace. No comma follows the last one. -/
def pairs? (value : Reader Value) : Nat → Entries → Reader Entries
  | 0, _, _ => none
  | bound + 1, es, s => do
    let ((path, key, v), s) ← pair? value s
    let es ← es.insert path key v
    match dropBlanks s with
    | ',' :: rest => pairs? value bound es rest
    | '\x7d' :: rest => return (es, rest)
    | _ => none

def bracedTable? (value : Reader Value) (s : List Char) : Option (Value × List Char) :=
  match dropBlanks s with
  | '\x7d' :: rest => some (.table [], rest)
  | s => (pairs? value (s.length + 1) [] s).map fun (es, rest) => (.table (entryValues es), rest)

def number? (s : List Char) : Option (Value × List Char) :=
  match Moment.read? s with
  | some rest => some (.datetime, rest)
  | none => (Number.float? s).orElse fun _ => Number.integer? s

def word? (s : List Char) : Option (Value × List Char) :=
  match dropWord? "true" s, dropWord? "false" s with
  | some rest, _ => some (.boolean true, rest)
  | _, some rest => some (.boolean false, rest)
  | none, none => Number.named? s

/-- A value, with so many levels of arrays and tables in it. -/
def value? : Nat → Reader Value
  | levels, s =>
    match s with
    | '[' :: rest =>
      match levels with
      | 0 => none
      | levels + 1 => do
        let (vs, rest) ← items? (value? levels) (rest.length + 1) rest
        return (.array vs, rest)
    | '\x7b' :: rest =>
      match levels with
      | 0 => none
      | levels + 1 => bracedTable? (value? levels) rest
    | c :: _ =>
      if c = '"' ∨ c = '\'' then (Quotation.read? s).map fun (t, rest) => (.string t, rest)
      else if c.isDigit ∨ c = '+' ∨ c = '-' then number? s
      else word? s
    | [] => none

/-! ### Lines -/

/-- A header behind its opening brackets. -/
def header? (close : String) (s : List Char) : Option ((List String × String) × List Char) := do
  let (key, s) ← key? s
  return (key, ← endOfLine? (← dropWord? close s))

/-- One line, without blanks in front of it. -/
def line? (d : Draft) (s : List Char) : Option (Draft × List Char) :=
  match s with
  | '#' :: _ => (lineEnd? (dropComment s)).map fun rest => (d, rest)
  | '[' :: '[' :: rest => do
    let ((path, key), rest) ← header? "]]" rest
    return (← d.openElement path key, rest)
  | '[' :: rest => do
    let ((path, key), rest) ← header? "]" rest
    return (← d.openTable path key, rest)
  | s =>
    match newline? s with
    | some rest => some (d, rest)
    | none => do
      let ((path, key, v), rest) ← pair? (value? (depthLimit - 1)) s
      return (← d.addLine path key v, ← endOfLine? rest)

def lines? : Nat → Draft → List Char → Option Draft
  | 0, _, _ => none
  | bound + 1, d, s =>
    match dropBlanks s with
    | [] => some d
    | s => do
      let (d, rest) ← line? d s
      lines? bound d rest

/-- The data in a file; a mark of byte order may stand in front. -/
def Value.ofString? (text : String) : Option Value := do
  let s := match text.toList with
    | '\ufeff' :: rest => rest
    | s => s
  let d ← lines? (s.length + 1) .empty s
  return .table (entryValues (← d.complete))

end Sluice.Toml
