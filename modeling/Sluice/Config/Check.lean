import Sluice.Config.Basic
import Sluice.Config.Problem
import Sluice.Net.SocketAddress
import Sluice.Url.Reading

/-! Validation of a configuration.

All problems are found, in a fixed order: an empty list of backends; for each backend what is wrong
with its own URL, or that an earlier one reads the same; then one for every other rule broken. -/
namespace Sluice.Config

/-- The URL of a backend. It is an HTTP one. -/
def backendUrl (text : String) : Except Problem Url :=
  match Url.ofString text with
  | .error e => .error (.malformedBackend text e.message)
  | .ok u =>
    if u.scheme ≠ "http" then .error (.unsupportedScheme text)
    else if u.host?.isNone then .error (.malformedBackend text "missing host")
    else .ok u

/-- Whether two URLs read the same. -/
def sameUrl (u v : Url) : Bool :=
  u.text = v.text

/-- The problems of backends, one after another; `seen` holds the URLs of those before. -/
def backendProblems (seen : List Url) : List String → List Problem
  | [] => []
  | text :: rest =>
    match backendUrl text with
    | .error p => p :: backendProblems seen rest
    | .ok u =>
      if seen.any (sameUrl u) then .duplicateBackend text :: backendProblems seen rest
      else backendProblems (seen ++ [u]) rest

/-- A problem where a rule is broken. -/
def require (rule : Bool) (p : Problem) : List Problem :=
  if rule then [] else [p]

/-- The problems with all that is not a backend. -/
def settingProblems (c : Config) : List Problem :=
  require (c.healthCheck.intervalSecs ≠ 0) .zeroInterval ++
  require (c.healthCheck.timeoutSecs ≠ 0) (.zeroTimeout "health_check.timeout_secs") ++
  require (c.forwarding.timeoutSecs ≠ 0) (.zeroTimeout "upstream.timeout_secs") ++
  require (c.healthCheck.path.startsWith "/") .invalidProbePath ++
  require (Net.SocketAddress.ofString? c.listener.bindAddress).isSome
    (.invalidBindAddress c.listener.bindAddress)

def problems (c : Config) : List Problem :=
  require (!c.balancer.backends.isEmpty) .noBackends ++
  backendProblems [] c.balancer.backends ++
  settingProblems c

def validate (c : Config) : Except (List Problem) Unit :=
  match problems c with
  | [] => .ok ()
  | ps => .error ps

end Sluice.Config
