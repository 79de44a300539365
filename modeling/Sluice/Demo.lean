import Sluice.CommandLine.DemoFlags
import Sluice.Http.Message

/-! The demonstration backend: it is always well, and says its name. -/
namespace Sluice

structure Demo where
  flags : DemoFlags
  served : Nat
deriving DecidableEq, Repr

namespace Demo

def healthPath : String := "/health"

/-- The answer to a method that the health path does not know. -/
def methodNotAllowed : Http.Response where
  status := ⟨405, by decide⟩
  headers := Http.Headers.empty.append ⟨"allow"⟩ "GET,HEAD"
  body := .empty

/-- The health path answers without a word; every other path, whatever the method, with the name. -/
def answer (d : Demo) (r : Http.Request) : Http.Response × Demo :=
  if r.uri.path = healthPath then
    if r.method = .get ∨ r.method = .head then (⟨.ok, .empty, .empty⟩, d) else (methodNotAllowed, d)
  else
    (.plain .ok ("Hello from backend server: " ++ d.flags.name), { d with served := d.served + 1 })

end Demo
end Sluice
