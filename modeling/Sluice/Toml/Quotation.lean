import Sluice.Net.Ipv6
import Sluice.Toml.Lexical

/-! Quoted text in configuration files.

Double quotes allow escapes, single quotes none. Three quotes hold several lines; there the first
line end is dropped, and in double quotes a backslash at the end of a line drops it with all blanks
and line ends that follow. Up to two quotes may stand right before the closing three. -/
namespace Sluice.Toml.Quotation

/-! ### Escapes -/

/-- The character with this many hexadecimal digits. -/
def codePoint? (digits : Nat) (s : List Char) : Option (Char × List Char) := do
  let ds ← (s.take digits).mapM Net.Ipv6.hexDigit?
  let n := ds.foldl (fun n d => n * 16 + d) 0
  if ds.length = digits ∧ n.isValidChar then some (Char.ofNat n, s.drop digits) else none

/-- What stands behind a backslash. -/
def escaped? : Reader Char
  | 'b' :: rest => some ('\x08', rest)
  | 'f' :: rest => some ('\x0c', rest)
  | 'n' :: rest => some ('\n', rest)
  | 'r' :: rest => some ('\r', rest)
  | 't' :: rest => some ('\t', rest)
  | '"' :: rest => some ('"', rest)
  | '\\' :: rest => some ('\\', rest)
  | 'u' :: rest => codePoint? 4 rest
  | 'U' :: rest => codePoint? 8 rest
  | _ => none

/-! ### One line -/

/-- Text up to the closing double quote. -/
def basic (bound : Nat) (done : List Char) (s : List Char) : Option (List Char × List Char) :=
  match bound, s with
  | _, '"' :: rest => some (done.reverse, rest)
  | bound + 1, '\\' :: rest => do
    let (c, rest) ← escaped? rest
    basic bound (c :: done) rest
  | bound + 1, c :: rest => if isPlain c then basic bound (c :: done) rest else none
  | _, _ => none

/-- Text up to the closing single quote. -/
def literal (s : List Char) : Option (List Char × List Char) :=
  let body := s.takeWhile fun c => isPlain c && c ≠ '\''
  (dropMark? '\'' (s.drop body.length)).map fun rest => (body, rest)

/-! ### Several lines -/

/-- Whether the text begins with three quotes. -/
def closes (quote : Char) (s : List Char) : Bool :=
  [quote, quote, quote].isPrefixOf s

/-- The end of a text of several lines: the quotes that still belong to it, and the rest. -/
def closing (quote : Char) (s : List Char) : List Char × List Char :=
  let count := min ((s.takeWhile (· = quote)).length) 5
  (List.replicate (count - 3) quote, s.drop count)

def dropBlankLines : List Char → List Char
  | ' ' :: rest => dropBlankLines rest
  | '\t' :: rest => dropBlankLines rest
  | '\n' :: rest => dropBlankLines rest
  | '\r' :: '\n' :: rest => dropBlankLines rest
  | rest => rest

/-- Behind a backslash: the text after blanks, a line end, and all blanks and line ends. -/
def continuation? (s : List Char) : Option (List Char) :=
  (newline? (dropBlanks s)).map dropBlankLines

/-- Text of several lines up to its closing quotes, with escapes in double quotes only. -/
def lines (quote : Char) (bound : Nat) (done : List Char) (s : List Char) :
    Option (List Char × List Char) :=
  match bound, s with
  | 0, _ => none
  | _, [] => none
  | bound + 1, c :: rest =>
    if closes quote s then
      let (quotes, rest) := closing quote s
      some (done.reverse ++ quotes, rest)
    else if c = '\\' ∧ quote = '"' then
      match continuation? rest with
      | some rest => lines quote bound done rest
      | none => do
        let (c, rest) ← escaped? rest
        lines quote bound (c :: done) rest
    else if isPlain c then lines quote bound (c :: done) rest
    else do
      let rest ← newline? s
      lines quote bound ('\n' :: done) rest

/-- Drops the line end right behind the opening quotes. -/
def opening (s : List Char) : List Char :=
  (newline? s).getD s

/-! ### Any quoted text -/

/-- A quoted text of one line. -/
def line? : Reader String
  | '"' :: rest => (basic rest.length [] rest).map fun (s, rest) => (String.ofList s, rest)
  | '\'' :: rest => (literal rest).map fun (s, rest) => (String.ofList s, rest)
  | _ => none

def read? (s : List Char) : Option (String × List Char) :=
  match s with
  | quote :: _ =>
    if (quote = '"' || quote = '\'') && closes quote s then
      let body := opening (s.drop 3)
      (lines quote (body.length + 1) [] body).map fun (s, rest) => (String.ofList s, rest)
    else line? s
  | [] => none

end Sluice.Toml.Quotation
