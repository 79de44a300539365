import Sluice.Http.Uri
import Sluice.Url.Basic

/-! The target of a request to a backend.

A backend is addressed by scheme, host and port alone; the path and the query come from the
request, and whatever else its URL holds is ignored. -/
namespace Sluice.Http

/-- Why no target can be made. -/
inductive JoinError where
  | noHost (base : String)
  | uri (error : UriError)
deriving DecidableEq, Repr

def JoinError.reason : JoinError → String
  | noHost base => base ++ " has no host"
  | uri e => e.message

def JoinError.message (e : JoinError) : String :=
  "invalid upstream uri: " ++ e.reason

/-- The authority of a URL: its host, and its port where the URL or its scheme has one. -/
def authorityOf (base : Url) : Except JoinError String :=
  match base.host?, base.effectivePort? with
  | none, _ => .error (.noHost base.text)
  | some h, some port => .ok (h.text ++ ":" ++ toString port.toNat)
  | some h, none => .ok h.text

/-- A target is rooted. -/
def rooted (path : String) : String :=
  if path.startsWith "/" then path else "/" ++ path

/-- The target on a backend. Scheme, authority and path are looked at in this order. -/
def join (base : Url) (path : String) : Except JoinError Uri := do
  let authority ← authorityOf base
  let scheme ← (schemeOfString base.scheme).mapError .uri
  let authority ← (Authority.ofString authority).mapError .uri
  let target ← (PathAndQuery.ofString (rooted path)).mapError .uri
  return ⟨some scheme, some authority, target⟩

end Sluice.Http
