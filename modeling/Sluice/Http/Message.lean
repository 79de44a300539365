import Sluice.Health
import Sluice.Http.Headers
import Sluice.Http.Uri
import Sluice.Pool.Standings

/-! Requests and responses. -/
namespace Sluice.Http

structure Method where
  text : String
deriving DecidableEq, Repr

namespace Method

def ofString? (s : String) : Option Method :=
  if isToken s then some ⟨s⟩ else none

def get : Method := ⟨"GET"⟩
def head : Method := ⟨"HEAD"⟩
def connect : Method := ⟨"CONNECT"⟩

end Method

inductive Version where
  | http09
  | http10
  | http11
  | http2
  | http3
deriving DecidableEq, Repr

namespace Version

def all : List Version :=
  [http09, http10, http11, http2, http3]

/-- The versions of one number for short, too. -/
def names : Version → List String
  | http09 => ["HTTP/0.9"]
  | http10 => ["HTTP/1.0"]
  | http11 => ["HTTP/1.1"]
  | http2 => ["HTTP/2.0", "HTTP/2"]
  | http3 => ["HTTP/3.0", "HTTP/3"]

def ofString? (s : String) : Option Version :=
  all.find? (·.names.contains s)

end Version

/-- A body, and whether its length is known before it has passed. -/
structure Body where
  content : String
  sized : Bool
deriving DecidableEq, Repr

namespace Body

def text (s : String) : Body := ⟨s, true⟩
def empty : Body := text ""

end Body

structure Request where
  method : Method
  uri : Uri
  version : Version
  headers : Headers
  body : Body
deriving DecidableEq, Repr

/-- Why a request cannot be made. -/
inductive RequestError where
  | header (error : HeaderError)
  | malformed
deriving DecidableEq, Repr

/-- A request out of texts. Its header fields are looked at before all else. -/
def Request.ofTexts (method uri version : String) (headers : List (String × String)) (body : Body) :
    Except RequestError Request := do
  let headers ← (Headers.ofPairs headers).mapError .header
  match Method.ofString? method, Uri.ofString uri, Version.ofString? version with
  | some method, .ok uri, some version => return ⟨method, uri, version, headers, body⟩
  | _, _, _ => .error .malformed

structure Response where
  status : Status
  headers : Headers
  body : Body
deriving DecidableEq, Repr

namespace Response

/-- A plain text of the balancer's own. -/
def plain (status : Status) (text : String) : Response where
  status
  headers := Headers.empty.append .contentType "text/plain; charset=utf-8"
  body := .text text

/-- The answer where the backend failed. -/
def unavailable : Response :=
  plain .serviceUnavailable "Backend unavailable"

/-- The answer where no backend could be selected. -/
def ofSelectionError (e : SelectionError) : Response :=
  plain .serviceUnavailable e.message

/-- The answer to a target that no route matches. -/
def notFound : Response :=
  ⟨.notFound, .empty, .empty⟩

/-- A known length is announced, unless one is already. -/
def announceLength (r : Response) : Response :=
  if r.body.sized && !r.headers.contains .contentLength then
    { r with headers := r.headers.append .contentLength (toString r.body.content.utf8ByteSize) }
  else r

end Response
end Sluice.Http
