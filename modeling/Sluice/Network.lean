import Sluice.Http.Message
import Sluice.Net.SocketAddress

/-! What lies beyond the process: the other side of every exchange, and the right to listen.

A network says how an exchange ends and how long it took, whether an address can be listened on, and
whether clients reach what listens there. Nothing else about it matters here. -/
namespace Sluice

/-- Why an exchange brought no response. -/
inductive Failure where
  | timedOut
  | broken
deriving DecidableEq, Repr

/-- How an exchange ended. -/
structure Reply where
  result : Except Failure Http.Response
  latency : Duration

/-- Why an address cannot be listened on. -/
inductive ListenError where
  | permissionDenied
  | notAvailable
deriving DecidableEq, Repr

/-- The error as a failing start shows it. -/
def ListenError.dump : ListenError → String
  | permissionDenied =>
    "Os \x7b code: 13, kind: PermissionDenied, message: \"Permission denied\" \x7d"
  | notAvailable =>
    "Os \x7b code: 99, kind: AddrNotAvailable, message: \"Cannot assign requested address\" \x7d"

structure Network where
  exchange : Http.Request → Reply
  listen : Net.SocketAddress → Except ListenError Unit
  reachable : Bool

namespace Network

/-- Ports below this one are kept for the privileged. -/
def firstOpenPort : UInt16 := 1024

/-- Listening without privileges; port zero stands for any that is free. -/
def listenLocally (a : Net.SocketAddress) : Except ListenError Unit :=
  if a.port ≠ 0 && a.port < firstOpenPort then .error .permissionDenied
  else if a.isLocal then .ok ()
  else .error .notAvailable

/-- A network in which nobody reaches anybody. -/
def isolated : Network where
  exchange _ := ⟨.error .broken, ⟨1000⟩⟩
  listen := listenLocally
  reachable := false

end Network
end Sluice
