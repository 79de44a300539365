import Sluice.Balancer
import Sluice.Config.Layers
import Sluice.Demo
import Sluice.Router
import Sluice.Service

/-! The two programs, from their command lines to what is served.

A program prints help, fails with a message, or serves. A command line that cannot be carried out
has an exit code of its own; every other failing start has code one. -/
namespace Sluice.Program

/-- How a start comes out. -/
inductive Start (σ : Type) where
  | printed (text : String)
  | refused (code : Nat)
  | failed (message : Option String)
  | serving (server : σ)

/-- The exit code of a start, and of a program that has served to its end. -/
def Start.code {σ : Type} : Start σ → Nat
  | printed _ => 0
  | refused code => code
  | failed _ => 1
  | serving _ => Service.Ending.stopped.exitCode

/-- What a failing start prints. -/
def failure (dump : String) : String :=
  "Error: " ++ dump ++ "\n"

def ofRefusal {σ : Type} (answer? : CommandLine.Refusal → Option String) (r : CommandLine.Refusal) :
    Start σ :=
  match answer? r with
  | some text => .printed text
  | none => .refused r.exitCode

/-! ### The balancer -/

/-- Builds the balancer, and then listens. -/
def serve (net : Network) (c : Config) : Start Assembly :=
  match Assembly.ofConfig c, Net.SocketAddress.ofString? c.listener.bindAddress with
  | .error ps, _ => .failed ((ConfigError.validation ps).dump?.map failure)
  | .ok _, none => .failed none
  | .ok a, some address =>
    match net.listen address with
    | .error e => .failed (some (failure e.dump))
    | .ok () => .serving a

def balancer (net : Network) (files : Files) (args : List String) : Start Assembly :=
  match Flags.parse args with
  | .error r => ofRefusal Flags.answer? r
  | .ok flags =>
    match Config.resolve files flags with
    | .error e => .failed (e.dump?.map failure)
    | .ok c => serve net c

/-- One request to the balancer. -/
def handle (net : Network) (freshId : String) : Service.Handler Assembly := fun a r =>
  let (response, balancer) := Router.handle a.balancer net freshId r
  (response, { a with balancer })

/-! ### The demonstration backend -/

def demo (net : Network) (args : List String) : Start Demo :=
  match DemoFlags.parse args with
  | .error r => ofRefusal DemoFlags.answer? r
  | .ok flags =>
    match net.listen (.v4 .any flags.port.toUInt16) with
    | .error e => .failed (some (failure e.dump))
    | .ok () => .serving ⟨flags, 0⟩

end Sluice.Program
