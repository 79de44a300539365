import Sluice.Http.Headers
import Sluice.Http.Joining
import Sluice.Network

/-! Calls to backends: probes and forwarded requests.

Every call has a limit of time. A forwarded request keeps its method, its body, its path and query
and its header fields, but for the host and those of a single connection; the response loses the
latter, too. -/
namespace Sluice.Call

/-- How long each kind of call may take. -/
structure Limits where
  probe : Duration
  forward : Duration
deriving DecidableEq, Repr

/-- Why a call brought no response. -/
inductive Error where
  | timeout (limit : Duration)
  | transport
  | target (error : Http.JoinError)
deriving DecidableEq, Repr

/-- What is said of a failed call; what failed beyond the process has no words of its own. -/
def Error.message? : Error → Option String
  | timeout limit => some ("request timed out after " ++ limit.text)
  | transport => none
  | target e => some e.message

/-- The name that probes go by. -/
def probeAgent : String :=
  "balancing-proxy-health-check"

def probeRequest (base : Url) (path : String) : Except Error Http.Request := do
  let uri ← (Http.join base path).mapError .target
  return ⟨.get, uri, .http11, Http.Headers.empty.append .userAgent probeAgent, .empty⟩

/-- The request that a backend gets for the request of a client. -/
def forwardRequest (base : Url) (r : Http.Request) : Except Error Http.Request := do
  let uri ← (Http.join base r.uri.pathAndQuery).mapError .target
  return { r with
    uri
    version := .http11
    headers := Http.HopByHop.strip (r.headers.remove .host) }

/-- The result of an exchange under a limit. -/
def settle (limit : Duration) (result : Except Failure Http.Response) :
    Except Error Http.Response :=
  result.mapError fun
    | .timedOut => .timeout limit
    | .broken => .transport

def probe (limits : Limits) (net : Network) (base : Url) (path : String) :
    Except Error Status × Duration :=
  match probeRequest base path with
  | .ok r =>
    let reply := net.exchange r
    ((settle limits.probe reply.result).map (·.status), reply.latency)
  | .error e => (.error e, ⟨0⟩)

def forward (limits : Limits) (net : Network) (base : Url) (r : Http.Request) :
    Except Error Http.Response × Duration :=
  match forwardRequest base r with
  | .ok r =>
    let reply := net.exchange r
    let result := settle limits.forward reply.result
    (result.map fun r => { r with headers := Http.HopByHop.strip r.headers }, reply.latency)
  | .error e => (.error e, ⟨0⟩)

end Sluice.Call
