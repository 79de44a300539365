import Sluice.Http.Message

/-! The id that follows a request.

A request that comes without an id is given a fresh one before anything else happens; the response
carries the id of its request, unless the backend put one of its own on it. -/
namespace Sluice.Http.RequestId

/-- Gives the request an id if it has none. -/
def assign (fresh : String) (r : Request) : Request :=
  if r.headers.contains .xRequestId then r
  else { r with headers := r.headers.insert .xRequestId fresh }

/-- Puts the id of a request on its response if that has none. -/
def propagate (id : Option String) (r : Response) : Response :=
  match id with
  | some id =>
    if r.headers.contains .xRequestId then r
    else { r with headers := r.headers.insert .xRequestId id }
  | none => r

/-- A value that can be logged: visible ASCII, spaces and tabs. -/
def isVisible (s : String) : Bool :=
  s.toList.all fun c => c = '\t' || (' ' ≤ c && c ≤ '~')

/-- The id as logs show it. -/
def text (h : Headers) : String :=
  match h.get? .xRequestId with
  | some id => if isVisible id then id else "unknown"
  | none => "unknown"

end Sluice.Http.RequestId
