import Sluice.Pool.Strategy

/-! The configuration, with the value that every setting has unless it is set. -/
namespace Sluice

namespace Config

structure Listener where
  bindAddress : String := "0.0.0.0:8080"
deriving DecidableEq, Repr

structure Backends where
  strategy : Strategy := .roundRobin
  backends : List String := []
deriving DecidableEq, Repr

structure HealthCheck where
  intervalSecs : Nat := 10
  timeoutSecs : Nat := 5
  path : String := "/health"
deriving DecidableEq, Repr

structure Forwarding where
  timeoutSecs : Nat := 30
deriving DecidableEq, Repr

structure Observability where
  logLevel : String := "info"
  json : Bool := false
deriving DecidableEq, Repr

end Config

structure Config where
  listener : Config.Listener := {}
  balancer : Config.Backends := {}
  healthCheck : Config.HealthCheck := {}
  forwarding : Config.Forwarding := {}
  observability : Config.Observability := {}
deriving DecidableEq, Repr

namespace Config

/-- The filter of log lines for a level: this program's and those of its HTTP layers. -/
def logFilter (level : String) : String :=
  "balancing_proxy=" ++ level ++ ",tower_http=" ++ level

end Config
end Sluice
