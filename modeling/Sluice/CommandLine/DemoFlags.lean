import Sluice.CommandLine.Scan

/-! The command line of the demonstration backend. -/
namespace Sluice

structure DemoFlags where
  port : Nat := 8081
  name : String := "backend"
  delayMs : Nat := 0
deriving DecidableEq, Repr

namespace DemoFlags
open CommandLine

inductive Name where
  | port
  | name
  | delay
  | help
deriving DecidableEq, Repr

/-- A number below `2 ^ 16`; it may have a sign, and zero a minus sign, too. -/
def port? (s : String) : Option Nat :=
  match s.toList with
  | '-' :: rest => if !rest.isEmpty && rest.all (· = '0') then some 0 else none
  | _ => natBelow? (Nat.pow 2 16) s

def checkPort (s : String) : Option Refusal :=
  if (port? s).isSome then none else some .valueValidation

def options : Options Name where
  options :=
    [⟨.port, "port", some 'p', .value checkPort⟩,
      ⟨.name, "name", some 'n', .value checkNothing⟩,
      ⟨.delay, "delay-ms", some 'd', .value (checkNat (Nat.pow 2 64))⟩,
      ⟨.help, "help", some 'h', .help⟩]
  operands := false

def ofParsed (p : Parsed Name) : DemoFlags :=
  let defaults : DemoFlags := {}
  { port := ((p.given.lookup .port).bind port?).getD defaults.port
    name := (p.given.lookup .name).getD defaults.name
    delayMs := ((p.given.lookup .delay).bind (natBelow? (Nat.pow 2 64))).getD defaults.delayMs }

def parse (args : List String) : Except Refusal DemoFlags := do
  return ofParsed (← options.parse args)

def help : String :=
  "\n".intercalate
    ["Minimal backend server for local load balancing demos", "",
      "Usage: demo-backend [OPTIONS]", "",
      "Options:",
      "  -p, --port <PORT>          Port to listen on [default: 8081]",
      "  -n, --name <NAME>          Name echoed in every response [default: backend]",
      "  -d, --delay-ms <DELAY_MS>  " ++
        "Artificial delay before answering, in milliseconds [default: 0]",
      "  -h, --help                 Print help", ""]

def answer? : Refusal → Option String
  | .help _ => some help
  | _ => none

end DemoFlags
end Sluice
