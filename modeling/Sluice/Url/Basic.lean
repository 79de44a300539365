import Sluice.Url.Host
import Sluice.Url.Path

/-! URLs and their text.

A URL has a scheme, an authority unless its text shows none, a path, and a query and a fragment
where its text shows them. Two URLs are equal when their texts are. -/
namespace Sluice

namespace Url

/-- What stands behind two slashes: who asks, the host unless it is empty, and the port unless it
is missing or the usual one of the scheme. -/
structure Authority where
  username : String
  password : Option String
  host : Option Host
  port : Option UInt16
deriving DecidableEq, Repr

def Authority.anonymous (host : Option Host) (port : Option UInt16) : Authority :=
  ⟨"", none, host, port⟩

namespace Authority

/-- The user name and the password, with the sign behind them. -/
def userinfo (a : Authority) : String :=
  match a.password with
  | some p => a.username ++ ":" ++ p ++ "@"
  | none => if a.username.isEmpty then "" else a.username ++ "@"

def text (a : Authority) : String :=
  a.userinfo ++ (a.host.map Host.text).getD "" ++
    (match a.port with | some p => ":" ++ toString p.toNat | none => "")

end Authority

/-- Schemes of the web, each with its usual port. -/
def usualPorts : List (String × UInt16) :=
  [("http", 80), ("https", 443), ("ws", 80), ("wss", 443), ("ftp", 21)]

def usualPort? (scheme : String) : Option UInt16 :=
  usualPorts.lookup scheme

def Kind.ofScheme (scheme : String) : Kind :=
  if scheme = "file" then .file
  else if (usualPort? scheme).isSome then .web
  else .other

end Url

structure Url where
  scheme : String
  authority : Option Url.Authority
  path : String
  query : Option String
  fragment : Option String
deriving Repr

namespace Url

def host? (u : Url) : Option Host :=
  u.authority.bind (·.host)

/-- The port that is written. -/
def port? (u : Url) : Option UInt16 :=
  u.authority.bind (·.port)

/-- The port to connect to: the one written, or the usual one of the scheme. -/
def effectivePort? (u : Url) : Option UInt16 :=
  u.port?.or (usualPort? u.scheme)

/-- The text of a URL. A path that begins with two slashes would read as an authority where there
is none, so a dot is put in front of it. -/
def text (u : Url) : String :=
  u.scheme ++ ":" ++
    (match u.authority with
      | some a => "//" ++ a.text
      | none => if ['/', '/'].isPrefixOf u.path.toList then "/." else "") ++
    u.path ++
    (match u.query with | some q => "?" ++ q | none => "") ++
    (match u.fragment with | some f => "#" ++ f | none => "")

end Url
end Sluice
