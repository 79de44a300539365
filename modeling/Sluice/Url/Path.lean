import Sluice.Url.Percent

/-! Paths of URLs.

A path is read segment by segment. A segment of one dot adds nothing, a segment of two dots takes
the last one away, and either may be spelled with `%2e`. In the `file` scheme a drive letter is kept
at the front and written with a colon. -/
namespace Sluice.Url

/-- What a scheme means for host and path. -/
inductive Kind where
  /-- The schemes of the web, which always have a host. -/
  | web
  | file
  | other
deriving DecidableEq, Repr

namespace Kind

def isSpecial : Kind → Bool
  | other => false
  | _ => true

/-- The characters that separate segments. -/
def isSlash (k : Kind) (c : Char) : Bool :=
  c = '/' || (k.isSpecial && c = '\\')

end Kind

namespace Path

/-- A path ends where a query or a fragment begins. -/
def isEnd (c : Char) : Bool :=
  c = '?' || c = '#'

/-! ### Segments -/

def isDot (s : List Char) : Bool :=
  s = ['.'] || String.ofList (s.map Char.toLower) = "%2e"

def isDoubleDot (s : List Char) : Bool :=
  ["..", "%2e.", ".%2e", "%2e%2e"].contains (String.ofList (s.map Char.toLower))

def isDrive : List Char → Bool
  | [c, d] => c.isAlpha && (d = ':' || d = '|')
  | _ => false

/-- A drive letter with a colon. -/
def isNormalDrive (s : List Char) : Bool :=
  isDrive s && s.getLast? = some ':'

/-- Whether a text begins with a drive letter and nothing else before the next separator. -/
def beginsWithDrive (s : List Char) : Bool :=
  isDrive (s.take 2) && (s.drop 2).head?.all "/\\?#".toList.contains

/-! ### Taking segments away -/

/-- What stands before the last slash, and what follows it. -/
def splitLast (path : List Char) : List Char × List Char :=
  let last := (path.reverse.takeWhile (· ≠ '/')).reverse
  (path.take (path.length - last.length - 1), last)

/-- Whether the slash at the end may go: it is not the root, and no drive letter stands before. -/
def slashCanGo (path : List Char) : Bool :=
  match path.getLast? with
  | some '/' =>
    let before := path.dropLast
    before.contains '/' && !beginsWithDrive ((splitLast before).2 ++ ['/'])
  | _ => false

/-- Takes the last segment away, but neither the slash before it nor a drive letter. -/
def shorten (kind : Kind) (path : List Char) : List Char :=
  let segments := (path.splitOn '/').filter (!·.isEmpty)
  let (before, last) := splitLast path
  let held := isNormalDrive last || (segments.length = 1 && segments.all isNormalDrive)
  if kind = .file && held then path
  else before ++ ['/']

def endWithSlash (path : List Char) : List Char :=
  if path.getLast? = some '/' then path else path ++ ['/']

/-! ### Reading -/

/-- The path so far, and whether a drive letter has taken the place of the host. -/
structure Reading where
  path : List Char
  drive : Bool

/-- One segment, with a slash behind it unless it is the last one. -/
def addSegment (kind : Kind) (slash : Bool) (r : Reading) (s : List Char) : Reading :=
  let segment := Percent.encode Percent.inPath s
  let mark := if slash then ['/'] else []
  if isDoubleDot segment then
    let path := shorten kind (if slashCanGo r.path then r.path.dropLast else r.path)
    { r with path := if slash then endWithSlash path else path }
  else if isDot segment then { r with path := endWithSlash r.path }
  else if kind = .file && isDrive segment then
    ⟨r.path ++ segment.take 1 ++ ':' :: mark, true⟩
  else { r with path := r.path ++ segment ++ mark }

def addSegments (kind : Kind) (r : Reading) : List (List Char) → Reading
  | [] => r
  | [last] => addSegment kind false r last
  | s :: rest => addSegments kind (addSegment kind true r s) rest

/-- The path behind the root slash: what is written, whether it displaces the host, and the rest of
the text. -/
def read (kind : Kind) (s : List Char) : Reading × List Char :=
  let r := addSegments kind ⟨['/'], false⟩ ((s.takeWhile (!isEnd ·)).splitOnP kind.isSlash)
  let path := if kind = .file then '/' :: r.path.dropWhile (· = '/') else r.path
  (⟨path, r.drive⟩, s.dropWhile (!isEnd ·))

end Path
end Sluice.Url
