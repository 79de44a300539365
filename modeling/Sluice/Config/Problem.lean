import Sluice.Text.Quoted

/-! What can be wrong with a configuration that is well-formed. -/
namespace Sluice.Config

inductive Problem where
  | noBackends
  | malformedBackend (url reason : String)
  | unsupportedScheme (url : String)
  | duplicateBackend (url : String)
  | zeroInterval
  | zeroTimeout (key : String)
  | invalidProbePath
  | invalidBindAddress (address : String)
deriving DecidableEq, Repr

namespace Problem
open Text (quoted)

def message : Problem → String
  | noBackends => "no backends configured"
  | malformedBackend url reason => "backend " ++ quoted url ++ " is not a valid URL: " ++ reason
  | unsupportedScheme url => "backend " ++ quoted url ++ " must use http"
  | duplicateBackend url => "duplicate backend " ++ quoted url
  | zeroInterval => "health_check.interval_secs must be positive"
  | zeroTimeout key => key ++ " must be positive"
  | invalidProbePath => "health_check.path must start with '/'"
  | invalidBindAddress a => "listener.bind_address " ++ quoted a ++ " is not a socket address"

/-- The name of the kind of problem. -/
def kind : Problem → String
  | noBackends => "NoBackends"
  | malformedBackend _ _ => "MalformedBackend"
  | unsupportedScheme _ => "UnsupportedScheme"
  | duplicateBackend _ => "DuplicateBackend"
  | zeroInterval => "ZeroInterval"
  | zeroTimeout _ => "ZeroTimeout"
  | invalidProbePath => "InvalidProbePath"
  | invalidBindAddress _ => "InvalidBindAddress"

/-- The kind with its details, as a failing start shows it. -/
def dump (p : Problem) : String :=
  p.kind ++ match p with
  | malformedBackend url reason =>
    " \x7b url: " ++ quoted url ++ ", reason: " ++ quoted reason ++ " \x7d"
  | unsupportedScheme s | duplicateBackend s | zeroTimeout s | invalidBindAddress s =>
    "(" ++ quoted s ++ ")"
  | noBackends | zeroInterval | invalidProbePath => ""

end Problem
end Sluice.Config
