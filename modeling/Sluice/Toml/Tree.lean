/-! The data that configuration files hold, and how tables grow while a file is read.

A table comes into being by a header, as the parent of another header's table, or by a dotted key.
Only where it is open may it grow: headers complete tables that headers have implied, dotted keys
add to tables that dotted keys have made, and a value is closed for good. -/
namespace Sluice.Toml

/-- Dates and times are told apart from all else, and not looked into. -/
inductive Value where
  | string (text : String)
  | integer (n : Int)
  | float (x : Float)
  | boolean (b : Bool)
  | datetime
  | array (items : List Value)
  | table (entries : List (String × Value))
deriving Inhabited, Repr

/-- How a table has come into being. -/
inductive Origin where
  | header
  | implied
  | dotted
deriving DecidableEq, Repr

inductive Node where
  | value (v : Value)
  | table (origin : Origin) (entries : List (String × Node))
  | tables (elements : List (List (String × Node)))

abbrev Entries := List (String × Node)

mutual

/-- The data that a tree holds. -/
def Node.toValue : Node → Value
  | .value v => v
  | .table _ entries => .table (entryValues entries)
  | .tables elements => .array (elementValues elements)

def entryValues : List (String × Node) → List (String × Value)
  | [] => []
  | (key, node) :: rest => (key, node.toValue) :: entryValues rest

def elementValues : List (List (String × Node)) → List Value
  | [] => []
  | entries :: rest => .table (entryValues entries) :: elementValues rest

end

namespace Entries

/-- Puts a node in the place of the one under a key. -/
def replace (key : String) (node : Node) (es : Entries) : Entries :=
  es.map fun (k, old) => (k, if k = key then node else old)

/-- Changes the table at the end of a path, and makes the tables on the way that are missing. By a
dotted key, no table with a header may be entered. An array of tables stands for its last one. -/
def update {α : Type} (dotted : Bool) (change : Origin → Entries → Option (α × Entries)) :
    List String → Origin → Entries → Option (α × Entries)
  | [], origin, es => change origin es
  | key :: path, _, es =>
    match es.lookup key with
    | none => do
      let origin := if dotted then .dotted else .implied
      let (a, inner) ← update dotted change path origin []
      return (a, es ++ [(key, .table origin inner)])
    | some (.table origin inner) =>
      if dotted ∧ origin = .header then none
      else do
        let (a, inner) ← update dotted change path origin inner
        return (a, es.replace key (.table origin inner))
    | some (.tables elements) => do
      let (a, inner) ← update dotted change path .header (← elements.getLast?)
      return (a, es.replace key (.tables (elements.dropLast ++ [inner])))
    | some (.value _) => none

/-- A new entry at the end. -/
def add (key : String) (node : Node) (es : Entries) : Option Entries :=
  if (es.lookup key).isSome then none else some (es ++ [(key, node)])

/-- A key with its value. Behind a dotted path the table must be one that such paths make. -/
def insert (path : List String) (key : String) (v : Value) (es : Entries) : Option Entries :=
  (update true
    (fun origin es =>
      if !path.isEmpty && origin ≠ .dotted then none
      else (es.add key (.value v)).map fun es => ((), es))
    path .header es).map (·.2)

/-- Takes away what a header may take up again: an implied table, or nothing. -/
def take (key : String) (es : Entries) : Option (Entries × Entries) :=
  match es.lookup key with
  | none => some ([], es)
  | some (.table .implied inner) => some (inner, es.filter (·.1 ≠ key))
  | some _ => none

/-- Adds a table to the array under a key. -/
def append (key : String) (element : Entries) (es : Entries) : Option Entries :=
  match es.lookup key with
  | none => some (es ++ [(key, .tables [element])])
  | some (.tables elements) => some (es.replace key (.tables (elements ++ [element])))
  | some _ => none

end Entries

/-! ### The table at hand -/

/-- What the last header opened. -/
inductive Header where
  | none
  | table (path : List String) (key : String)
  | element (path : List String) (key : String)

/-- The tables that are complete, and the one that lines are being added to. -/
structure Draft where
  root : Entries
  header : Header
  current : Entries

namespace Draft

def empty : Draft := ⟨[], .none, []⟩

/-- Puts the table at hand into its place. -/
def complete (d : Draft) : Option Entries :=
  let put (path : List String) (change : Entries → Option Entries) : Option Entries :=
    (Entries.update false (fun _ es => (change es).map fun es => ((), es)) path .header d.root).map
      (·.2)
  match d.header with
  | .none => some d.current
  | .table path key => put path (Entries.add key (.table .header d.current))
  | .element path key => put path (Entries.append key d.current)

/-- Begins with a table of a header of its own. -/
def openTable (path : List String) (key : String) (d : Draft) : Option Draft := do
  let root ← d.complete
  let (current, root) ← Entries.update false (fun _ es => es.take key) path .header root
  return ⟨root, .table path key, current⟩

/-- Begins with one more table of an array. -/
def openElement (path : List String) (key : String) (d : Draft) : Option Draft := do
  return ⟨← d.complete, .element path key, []⟩

def addLine (path : List String) (key : String) (v : Value) (d : Draft) : Option Draft := do
  return { d with current := ← d.current.insert path key v }

end Draft
end Sluice.Toml
