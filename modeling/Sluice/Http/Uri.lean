/-! Request targets and absolute URIs, as HTTP messages carry them.

A URI is a scheme, an authority and a path with a query; a fragment is cut off. The grammar is the
one HTTP agents accept in practice: looser than the standard in paths and queries, where anything
beyond ASCII may stand, and strict in authorities. -/
namespace Sluice.Http

inductive UriError where
  | empty
  | tooLong
  | schemeTooLong
  | invalidScheme
  | invalidAuthority
  | invalidFormat
  | invalidChar
deriving DecidableEq, Repr

def UriError.message : UriError → String
  | empty => "empty string"
  | tooLong => "uri too long"
  | schemeTooLong => "scheme too long"
  | invalidScheme => "invalid scheme"
  | invalidAuthority => "invalid authority"
  | invalidFormat => "invalid format"
  | invalidChar => "invalid uri character"

/-- The most bytes a target may have. -/
def maxUriBytes : Nat := 65534

/-! ### Path and query -/

structure PathAndQuery where
  text : String
deriving DecidableEq, Repr

namespace PathAndQuery

def isPathChar (c : Char) : Bool :=
  c = '!' || c = '"' || ('$' ≤ c && c ≤ ';') || c = '=' || ('@' ≤ c && c ≤ '_')
    || ('a' ≤ c && c ≤ '~') || '\x80' ≤ c

def isQueryChar (c : Char) : Bool :=
  c = '!' || ('$' ≤ c && c ≤ ';') || c = '=' || ('?' ≤ c && c ≤ '~') || '\x80' ≤ c

/-- What stands before a fragment. -/
def beforeFragment (s : List Char) : List Char :=
  s.takeWhile (· ≠ '#')

/-- Whether the characters up to the first question mark may stand in a path, and those after it in
a query. -/
def wellFormed (s : List Char) : Bool :=
  (s.takeWhile (· ≠ '?')).all isPathChar && ((s.dropWhile (· ≠ '?')).drop 1).all isQueryChar

def ofString (s : String) : Except UriError PathAndQuery :=
  let kept := beforeFragment s.toList
  if s.utf8ByteSize > maxUriBytes then .error .tooLong
  else if wellFormed kept then .ok ⟨String.ofList kept⟩
  else .error .invalidChar

/-- The path; an empty one stands for the root. -/
def path (p : PathAndQuery) : String :=
  let path := p.text.toList.takeWhile (· ≠ '?')
  if path.isEmpty then "/" else String.ofList path

end PathAndQuery

/-! ### Scheme -/

def maxSchemeLength : Nat := 64

def isSchemeChar (c : Char) : Bool :=
  c.isAlphanum || c = '+' || c = '-' || c = '.'

/-- A scheme, without the colon. -/
def schemeOfString (s : String) : Except UriError String :=
  if s.length > maxSchemeLength then .error .schemeTooLong
  else if s.toList.all isSchemeChar then .ok s
  else .error .invalidScheme

/-! ### Authority -/

namespace Authority

def isAuthorityChar (c : Char) : Bool :=
  c.isAlphanum || "!$&'()*+,-.;=_~".toList.contains c

/-- What has been read of an authority: the colons of the part at hand, the brackets, whether a
percent sign stands outside user information, whether the last character was an at sign. -/
structure Scan where
  colons : Nat
  opened : Bool
  closed : Bool
  percent : Bool
  atEnd : Bool
deriving DecidableEq, Repr

def Scan.start : Scan := ⟨0, false, false, false, false⟩

/-- At most this many colons stand in a part: those of the longest bracketed address. -/
def maxColons : Nat := 8

def Scan.next (s : Scan) (c : Char) : Except UriError Scan :=
  match c with
  | ':' =>
    if s.colons ≥ maxColons then .error .invalidAuthority
    else .ok { s with colons := s.colons + 1, atEnd := false }
  | '[' =>
    if s.percent || s.opened then .error .invalidAuthority
    else .ok { s with opened := true, atEnd := false }
  | ']' =>
    if !s.opened || s.closed then .error .invalidAuthority
    else .ok { s with closed := true, colons := 0, percent := false, atEnd := false }
  | '@' => .ok { s with colons := 0, percent := false, atEnd := true }
  | '%' => .ok { s with percent := true, atEnd := false }
  | c => if isAuthorityChar c then .ok { s with atEnd := false } else .error .invalidChar

/-- What must hold at the end: brackets in pairs, one colon at most, a host after the at sign, and
no percent sign in it. -/
def Scan.finish (s : Scan) : Except UriError Unit :=
  if (s.opened == s.closed) && s.colons ≤ 1 && !s.atEnd && !s.percent then .ok ()
  else .error .invalidAuthority

/-- An authority ends where a path, a query or a fragment begins. -/
def isEnd (c : Char) : Bool :=
  c = '/' || c = '?' || c = '#'

/-- Reads an authority off the front of a text: the authority and the rest. -/
def read (s : List Char) : Except UriError (List Char × List Char) := do
  let front := s.takeWhile (!isEnd ·)
  (← front.foldlM Scan.next .start).finish
  return (front, s.dropWhile (!isEnd ·))

/-- The whole text as an authority. -/
def ofString (s : String) : Except UriError String := do
  if s.isEmpty then .error .empty
  let (_, rest) ← read s.toList
  if rest.isEmpty then .ok s else .error .invalidChar

end Authority

/-! ### Whole URIs -/

structure Uri where
  scheme : Option String
  authority : Option String
  target : PathAndQuery
deriving DecidableEq, Repr

namespace Uri

/-- The path a router looks at; a bare authority has none. -/
def path (u : Uri) : String :=
  if u.scheme.isNone && u.target.text.isEmpty then "" else u.target.path

/-- The path and query as text; an empty one stands for the root. -/
def pathAndQuery (u : Uri) : String :=
  if u.target.text.isEmpty then "/" else u.target.text

def text (u : Uri) : String :=
  (match u.scheme with | some s => s ++ "://" | none => "") ++ u.authority.getD "" ++
    (if u.scheme.isNone && u.target.text.isEmpty then "" else u.pathAndQuery)

/-- A scheme in front of `://`, and what stands behind; `none` where there is no scheme. -/
def splitScheme (s : List Char) : Except UriError (Option (List Char × List Char)) :=
  let scheme := s.takeWhile isSchemeChar
  match s.dropWhile isSchemeChar with
  | ':' :: '/' :: '/' :: rest =>
    if scheme.length > maxSchemeLength then .error .schemeTooLong else .ok (some (scheme, rest))
  | _ => .ok none

/-- A URI with a scheme, or a bare authority. -/
def ofLongText (s : List Char) : Except UriError Uri := do
  match ← splitScheme s with
  | none =>
    let (authority, rest) ← Authority.read s
    if rest.isEmpty then .ok ⟨none, some (String.ofList authority), ⟨""⟩⟩
    else .error .invalidFormat
  | some (scheme, rest) =>
    let (authority, rest) ← Authority.read rest
    if authority.isEmpty then .error .invalidFormat
    else
      return ⟨some (String.ofList scheme), some (String.ofList authority),
        ← PathAndQuery.ofString (String.ofList rest)⟩

/-- The target of a request: a path, an absolute URI, a bare authority or the asterisk. -/
def ofString (s : String) : Except UriError Uri :=
  if s.utf8ByteSize > maxUriBytes then .error .tooLong
  else
    match s.toList with
    | [] => .error .empty
    | ['*'] => .ok ⟨none, none, ⟨"*"⟩⟩
    | [c] =>
      if c = '/' then .ok ⟨none, none, ⟨"/"⟩⟩
      else return ⟨none, some (← Authority.ofString s), ⟨""⟩⟩
    | '/' :: _ => return ⟨none, none, ← PathAndQuery.ofString s⟩
    | long => ofLongText long

end Uri
end Sluice.Http
