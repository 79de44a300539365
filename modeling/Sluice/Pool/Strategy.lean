/-! The two ways of selecting a backend, and their names. -/
namespace Sluice

inductive Strategy where
  /-- Healthy backends in configuration order, one after another. -/
  | roundRobin
  /-- The healthy backend with the lowest latency on record. -/
  | leastResponse
deriving DecidableEq, Repr

namespace Strategy

def all : List Strategy :=
  [roundRobin, leastResponse]

/-- The name in configuration files. -/
def key : Strategy → String
  | roundRobin => "round_robin"
  | leastResponse => "least_response"

/-- The name on the command line. -/
def flag : Strategy → String
  | roundRobin => "round-robin"
  | leastResponse => "least-response"

def ofKey? (s : String) : Option Strategy :=
  all.find? (·.key = s)

def ofFlag? (s : String) : Option Strategy :=
  all.find? (·.flag = s)

theorem ofKey?_key (s : Strategy) : ofKey? s.key = some s := by
  cases s <;> decide

theorem ofFlag?_flag (s : Strategy) : ofFlag? s.flag = some s := by
  cases s <;> decide

end Strategy
end Sluice
