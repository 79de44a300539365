import Sluice.CommandLine.Flags
import Sluice.Config.Decode
import Sluice.Config.Check
import Sluice.Files
import Sluice.Toml.Document

/-! The effective configuration: the defaults, the file over them, the command line over both, and
then validation, once. -/
namespace Sluice

/-- Why there is no configuration to start with. -/
inductive ConfigError where
  | io (error : ReadError)
  | syntaxError
  | schema (error : Config.DecodeError)
  | validation (problems : List Config.Problem)

namespace ConfigError

/-- What is said of the error. Where the text of a file is no TOML at all, there are no fixed
words. -/
def message? : ConfigError → Option String
  | io e => some ("IO error: " ++ e.message)
  | syntaxError => none
  | schema e => some e.message
  | validation ps => some ("Validation failed: " ++ ", ".intercalate (ps.map (·.message)))

/-- The error as a failing start shows it; of an error in a file only its position would tell. -/
def dump? : ConfigError → Option String
  | io e => some ("Io(" ++ e.dump ++ ")")
  | syntaxError | schema _ => none
  | validation ps => some ("Validation([" ++ ", ".intercalate (ps.map (·.dump)) ++ "])")

end ConfigError

namespace Config

/-- The configuration in a text. -/
def ofText (text : String) : Except ConfigError Config :=
  match Toml.Value.ofString? text with
  | some v => (ofValue v).mapError .schema
  | none => .error .syntaxError

/-- The configuration in a file, not validated. -/
def load (files : Files) (path : String) : Except ConfigError Config := do
  let bytes ← (files path).mapError .io
  match String.fromUTF8? bytes with
  | some text => ofText text
  | none => .error (.io .notText)

/-- The configuration without the command line. -/
def base (files : Files) (f : Flags) : Except ConfigError Config :=
  match f.config with
  | some path => load files path
  | none => .ok {}

def resolve (files : Files) (f : Flags) : Except ConfigError Config := do
  let c := f.overlay (← base files f)
  (validate c).mapError .validation
  return c

end Config
end Sluice
