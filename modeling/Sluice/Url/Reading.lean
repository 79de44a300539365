import Sluice.Http.Uri
import Sluice.Url.Basic

/-! Reading a URL.

Blanks and controls around the text and tabs and line breaks anywhere are dropped. The scheme
decides how the rest is read: whether slashes must follow, whether a backslash counts as one, and
what a host may be. -/
namespace Sluice.Url

/-- The text that counts. -/
def significant (s : List Char) : List Char :=
  let blank (c : Char) : Bool := c ≤ ' '
  let trimmed := ((s.dropWhile blank).reverse.dropWhile blank).reverse
  trimmed.filter fun c => c ≠ '\t' && c ≠ '\n' && c ≠ '\r'

/-! ### Scheme -/

/-- A letter, and then letters, digits, plus and minus signs and dots, up to a colon. -/
def scheme? (s : List Char) : Option (String × List Char) :=
  let front := s.takeWhile Http.isSchemeChar
  match s.dropWhile Http.isSchemeChar with
  | ':' :: rest =>
    if front.head?.any Char.isAlpha then some (String.ofList (front.map Char.toLower), rest)
    else none
  | _ => none

/-! ### Authority -/

def isAuthorityEnd (kind : Kind) (c : Char) : Bool :=
  kind.isSlash c || c = '?' || c = '#'

/-- The part before the last at sign, and what follows it; `none` where there is none. -/
def splitAt? (s : List Char) : Option (List Char × List Char) :=
  if s.contains '@' then
    let back := (s.reverse.takeWhile (· ≠ '@')).reverse
    some (s.take (s.length - back.length - 1), back)
  else none

/-- The user name and the password; an empty password is none. -/
def credentials (s : List Char) : String × Option String :=
  let encode (s : List Char) := String.ofList (Percent.encode Percent.inUserinfo s)
  let password := (s.dropWhile (· ≠ ':')).drop 1
  (encode (s.takeWhile (· ≠ ':')), if password.isEmpty then none else some (encode password))

/-- Where the host ends: at the first colon outside brackets. -/
def hostLength (bracket : Bool) : List Char → Nat
  | [] => 0
  | ':' :: rest => if bracket then hostLength bracket rest + 1 else 0
  | '[' :: rest => hostLength true rest + 1
  | ']' :: rest => hostLength false rest + 1
  | _ :: rest => hostLength bracket rest + 1

/-- The digits behind the colon, if there are any. -/
def portOfDigits (scheme : String) (s : List Char) : Except Error (Option UInt16) :=
  match Net.decimal? s with
  | some n =>
    if n ≥ Nat.pow 2 16 then .error .invalidPort
    else if usualPort? scheme = some n.toUInt16 then .ok none
    else .ok (some n.toUInt16)
  | none => if s.isEmpty then .ok none else .error .invalidPort

/-- A backslash ends a port in every scheme, though only in some a host. -/
def isPortEnd (c : Char) : Bool :=
  isAuthorityEnd .web c

/-- The host, missing only where the scheme does without, the port, and the rest. -/
def readHost (kind : Kind) (scheme : String) (s : List Char) :
    Except Error (Option Host × Option UInt16 × List Char) := do
  let place := s.takeWhile (!isAuthorityEnd kind ·)
  let length := hostLength false place
  let host ←
    if kind = .other then Host.ofOpaque (s.take length)
    else if length = 0 then .error .emptyHost
    else (Host.ofChars (s.take length)).map some
  match s.drop length with
  | ':' :: rest =>
    if host.isNone then .error .emptyHost
    else
      let port ← portOfDigits scheme (rest.takeWhile (!isPortEnd ·))
      return (host, port, rest.dropWhile (!isPortEnd ·))
  | rest => return (host, none, rest)

/-- The authority behind the slashes, and the rest. Whoever is named before an at sign needs a
host behind it. -/
def readAuthority (kind : Kind) (scheme : String) (s : List Char) :
    Except Error (Authority × List Char) := do
  let front := s.takeWhile (!isAuthorityEnd kind ·)
  let (userinfo, place) := (splitAt? front).getD ([], front)
  if front.contains '@' && userinfo.isEmpty && place.isEmpty && s.length > front.length then
    .error .emptyHost
  let (host, port, rest) ← readHost kind scheme (s.drop (front.length - place.length))
  let (username, password) := credentials userinfo
  let a : Authority := ⟨username, password, host, port⟩
  if host.isNone && !a.userinfo.isEmpty then .error .emptyHost
  return (a, rest)

/-! ### What follows the authority -/

/-- Query and fragment. -/
def withQuery (kind : Kind) (u : Url) (s : List Char) : Url :=
  let encoded := if kind.isSpecial then Percent.inSpecialQuery else Percent.inQuery
  let query := match s with
    | '?' :: rest =>
      some (String.ofList (Percent.encode encoded (rest.takeWhile (· ≠ '#'))))
    | _ => none
  let fragment := match s.dropWhile (· ≠ '#') with
    | '#' :: rest => some (String.ofList (Percent.encode Percent.inFragment rest))
    | _ => none
  { u with query, fragment }

/-- The path, from its first slash on; it may be missing where the scheme is not special. -/
def withPath (kind : Kind) (u : Url) (s : List Char) : Url :=
  if kind = .other && s.head?.all Path.isEnd then withQuery kind u s
  else
    let behindRoot := if s.head?.any kind.isSlash then s.drop 1 else s
    let (reading, rest) := Path.read kind behindRoot
    let u := { u with path := String.ofList reading.path }
    let u := if reading.drive then { u with authority := some (.anonymous none none) } else u
    withQuery kind u rest

/-- A path that is not divided into segments. -/
def withOpaquePath (u : Url) (s : List Char) : Url :=
  let path := Percent.encode Percent.inAnyPart (s.takeWhile (!Path.isEnd ·))
  withQuery .other { u with path := String.ofList path } (s.dropWhile (!Path.isEnd ·))

/-! ### The `file` scheme -/

/-- The host between the second and the third slash. This machine and a drive letter are none. -/
def readFileHost (s : List Char) : Except Error (Option Host × List Char) := do
  let place := s.takeWhile (!isAuthorityEnd .file ·)
  if Path.isDrive place then return (none, s)
  let rest := s.drop place.length
  if place.isEmpty then return (none, rest)
  let host ← Host.ofChars place
  return (if host = .name "localhost" then none else some host, rest)

def ofFileText (s : List Char) : Except Error Url := do
  let (host, rest) ← match s with
    | a :: b :: rest =>
      if Kind.file.isSlash a && Kind.file.isSlash b then readFileHost rest else pure (none, s)
    | _ => pure (none, s)
  return withPath .file ⟨"file", some (.anonymous host none), "", none, none⟩ rest

/-! ### Whole URLs -/

def ofString (text : String) : Except Error Url := do
  match scheme? (significant text.toList) with
  | none => .error .relative
  | some (scheme, rest) =>
    let behind (s : List Char) : Except Error Url := do
      let (a, rest) ← readAuthority (.ofScheme scheme) scheme s
      return withPath (.ofScheme scheme) ⟨scheme, some a, "", none, none⟩ rest
    match Kind.ofScheme scheme, rest with
    | .file, rest => ofFileText rest
    | .web, rest => behind (rest.dropWhile Kind.web.isSlash)
    | .other, '/' :: '/' :: rest => behind rest
    | .other, '/' :: rest => return withPath .other ⟨scheme, none, "", none, none⟩ ('/' :: rest)
    | .other, rest => return withOpaquePath ⟨scheme, none, "", none, none⟩ rest

end Sluice.Url
