import Sluice.CommandLine.Scan
import Sluice.Config.Basic

/-! The command line of the balancer, and how it overlays a configuration. -/
namespace Sluice

/-- What the command line says; nothing where an option was not given. -/
structure Flags where
  backends : List String
  config : Option String
  intervalSecs : Option Nat
  dynamic : Bool
  strategy : Option Strategy
  bind : Option String
  logLevel : Option String
deriving DecidableEq, Repr

namespace Flags
open CommandLine

inductive Name where
  | config
  | interval
  | dynamic
  | strategy
  | bind
  | logLevel
  | help
  | version
deriving DecidableEq, Repr

/-- A path names something. -/
def checkPath (s : String) : Option Refusal :=
  if s.isEmpty then some .invalidValue else none

def checkStrategy (s : String) : Option Refusal :=
  if (Strategy.ofFlag? s).isSome then none else some .invalidValue

/-- Seconds are numbers of 64 bits. -/
def secondsBound : Nat := Nat.pow 2 64

def options : Options Name where
  options :=
    [⟨.config, "config", none, .value checkPath⟩,
      ⟨.interval, "interval-health-check", some 'i', .value (checkNat secondsBound)⟩,
      ⟨.dynamic, "dynamic", some 'd', .switch⟩,
      ⟨.strategy, "strategy", none, .value checkStrategy⟩,
      ⟨.bind, "bind", some 'b', .value checkNothing⟩,
      ⟨.logLevel, "log-level", none, .value checkNothing⟩,
      ⟨.help, "help", some 'h', .help⟩,
      ⟨.version, "version", some 'V', .version⟩]
  operands := true

def ofParsed (p : Parsed Name) : Flags where
  backends := p.operands
  config := p.given.lookup .config
  intervalSecs := (p.given.lookup .interval).bind (natBelow? secondsBound)
  dynamic := (p.given.lookup .dynamic).isSome
  strategy := (p.given.lookup .strategy).bind Strategy.ofFlag?
  bind := p.given.lookup .bind
  logLevel := p.given.lookup .logLevel

/-- The switch for the dynamic strategy and the choice of a strategy exclude each other. -/
def parse (args : List String) : Except Refusal Flags := do
  let flags := ofParsed (← options.parse args)
  if flags.dynamic && flags.strategy.isSome then .error .argumentConflict
  return flags

/-- The strategy that is asked for. -/
def chosen (f : Flags) : Option Strategy :=
  if f.dynamic then some .leastResponse else f.strategy

/-- Puts what was given in the place of what the configuration says. -/
def overlay (f : Flags) (c : Config) : Config where
  listener := { c.listener with bindAddress := f.bind.getD c.listener.bindAddress }
  balancer :=
    { strategy := f.chosen.getD c.balancer.strategy
      backends := if f.backends.isEmpty then c.balancer.backends else f.backends }
  healthCheck :=
    { c.healthCheck with intervalSecs := f.intervalSecs.getD c.healthCheck.intervalSecs }
  forwarding := c.forwarding
  observability := { c.observability with logLevel := f.logLevel.getD c.observability.logLevel }

/-! ### Help -/

def about : String :=
  "Load balancer forwarding HTTP requests to a pool of backend servers"

def usage : String :=
  "Usage: balancing-proxy [OPTIONS] [BACKENDS]..."

/-- One line to an option, or two. -/
def shortHelp : String :=
  "\n".intercalate
    [about, "", usage, "",
      "Arguments:",
      "  [BACKENDS]...  Backend base URLs, e.g. http://127.0.0.1:8081", "",
      "Options:",
      "      --config <CONFIG>",
      "          TOML configuration file; flags override its values",
      "  -i, --interval-health-check <INTERVAL_HEALTH_CHECK>",
      "          Time interval in seconds between health checks",
      "  -d, --dynamic",
      "          Use the least-response strategy (shorthand for --strategy least-response)",
      "      --strategy <STRATEGY>",
      "          Backend selection strategy [possible values: round-robin, least-response]",
      "  -b, --bind <BIND>",
      "          Address to listen on",
      "      --log-level <LOG_LEVEL>",
      "          Log level (trace, debug, info, warn, error)",
      "  -h, --help",
      "          Print help (see more with '--help')",
      "  -V, --version",
      "          Print version", ""]

/-- A paragraph to each option, and the meaning of the strategies. -/
def longHelp : String :=
  "\n".intercalate
    [about, "", usage, "",
      "Arguments:",
      "  [BACKENDS]...",
      "          Backend base URLs, e.g. http://127.0.0.1:8081", "",
      "Options:",
      "      --config <CONFIG>",
      "          TOML configuration file; flags override its values", "",
      "  -i, --interval-health-check <INTERVAL_HEALTH_CHECK>",
      "          Time interval in seconds between health checks", "",
      "  -d, --dynamic",
      "          Use the least-response strategy (shorthand for --strategy least-response)", "",
      "      --strategy <STRATEGY>",
      "          Backend selection strategy", "",
      "          Possible values:",
      "          - round-robin:    Cycle through healthy backends in configuration order",
      "          - least-response: Send to the healthy backend with the lowest observed latency",
      "",
      "  -b, --bind <BIND>",
      "          Address to listen on", "",
      "      --log-level <LOG_LEVEL>",
      "          Log level (trace, debug, info, warn, error)", "",
      "  -h, --help",
      "          Print help (see a summary with '-h')", "",
      "  -V, --version",
      "          Print version", ""]

def version : String :=
  "balancing-proxy 0.1.0\n"

/-- What is printed where help or the version is asked for. -/
def answer? : Refusal → Option String
  | .help true => some longHelp
  | .help false => some shortHelp
  | .version => some version
  | _ => none

end Flags
end Sluice
