import Sluice.Balancer
import Sluice.Http.RequestId

/-! The way of a request through the server.

Every request is given an id. One whose target is a rooted path, or an absolute URI, is dispatched;
any other is not found. On its way out the answer gets the id of its request and the length of its
body, and loses the body where the request wants the head alone. -/
namespace Sluice.Router
variable {n : Nat}

/-- Whether a target is one of the backends' to answer. -/
def routes (u : Http.Uri) : Bool :=
  u.path.startsWith "/"

/-- Whether an answer to this request opens a tunnel: then it has neither body nor length. -/
def opensTunnel (request : Http.Request) (response : Http.Response) : Bool :=
  request.method = .connect && 200 ≤ response.status.code && response.status.code < 300

/-- The answer with the length of its body, or without the body. -/
def trim (request : Http.Request) (response : Http.Response) : Http.Response :=
  if opensTunnel request response then
    if response.headers.contains .contentLength || response.headers.contains .transferEncoding
        || (response.body.sized && response.body.content ≠ "") then
      { response with body := .empty }
    else response
  else if request.method = .head then { response.announceLength with body := .empty }
  else response.announceLength

/-- The answer as it leaves the server. -/
def finish (request : Http.Request) (response : Http.Response) : Http.Response :=
  trim request (Http.RequestId.propagate (request.headers.get? .xRequestId) response)

/-- A request on its way: with its id, and with the lease it holds. -/
structure Underway (n : Nat) where
  request : Http.Request
  lease : Lease n

/-- What becomes of a request at first. -/
inductive Admission (n : Nat) where
  | answered (response : Http.Response)
  | underway (request : Underway n)

/-- Takes a request in: the answer where no backend gets it, or the lease. -/
def accept (b : Balancer n) (freshId : String) (request : Http.Request) :
    Admission n × Balancer n :=
  let request := Http.RequestId.assign freshId request
  if routes request.uri then
    match b.lease with
    | .ok (lease, b) => (.underway ⟨request, lease⟩, b)
    | .error e => (.answered (finish request (.ofSelectionError e)), b)
  else (.answered (finish request .notFound), b)

/-- Answers a request under way with the result of its call. -/
def complete (b : Balancer n) (u : Underway n) (result : Except Call.Error Http.Response)
    (latency : Duration) : Http.Response × Balancer n :=
  let (response, b) := b.complete u.lease result latency
  (finish u.request response, b)

/-- A request that nothing interrupts. -/
def handle (b : Balancer n) (net : Network) (freshId : String) (request : Http.Request) :
    Http.Response × Balancer n :=
  match accept b freshId request with
  | (.answered r, b) => (r, b)
  | (.underway u, b) =>
    let (result, latency) := b.call net u.lease u.request
    complete b u result latency

end Sluice.Router
