import Sluice.Config.Basic
import Sluice.Decimal.Shortest
import Sluice.Text.Quoted
import Sluice.Toml.Tree

/-! Reading a configuration out of data.

Every section is a table, or an array of its settings in their order; settings that are missing
keep their defaults, and keys that name no setting are ignored. The first entry that does not fit,
in the order of the data, is the error. -/
namespace Sluice.Config
open Toml (Value)

/-! ### Errors -/

/-- What a setting has to be. -/
inductive Expected where
  | number
  | string
  | boolean
  | sequence
  | section (name : String)
deriving DecidableEq, Repr

def Expected.text : Expected → String
  | number => "u64"
  | string => "a string"
  | boolean => "a boolean"
  | sequence => "a sequence"
  | .section name => "struct " ++ name

/-- Why data is no configuration. -/
inductive DecodeError where
  | wrongType (found : Value) (expected : Expected)
  | outOfRange (n : Int)
  | unknownStrategy (name : String)
  | noStrategy
  | severalStrategies
  | notNamed
  | notEmptyArray
  | notEmptyTable
  | notTable (found : Value)

/-- What a message calls a value. -/
def describe : Value → String
  | .string s => "string " ++ Text.quoted s
  | .integer n => "integer `" ++ toString n ++ "`"
  | .float x => "floating point `" ++ Decimal.floatText x ++ "`"
  | .boolean b => "boolean `" ++ toString b ++ "`"
  | .array _ => "sequence"
  | .datetime => "map"
  | .table _ => "map"

/-- The type of a value. -/
def typeName : Value → String
  | .string _ => "string"
  | .integer _ => "integer"
  | .float _ => "float"
  | .boolean _ => "boolean"
  | .array _ => "array"
  | .datetime => "datetime"
  | .table _ => "table"

def strategyNames : String :=
  " or ".intercalate (Strategy.all.map fun s => "`" ++ s.key ++ "`")

def DecodeError.message : DecodeError → String
  | wrongType found expected =>
    "invalid type: " ++ describe found ++ ", expected " ++ expected.text
  | outOfRange n => "invalid value: integer `" ++ toString n ++ "`, expected u64"
  | unknownStrategy name => "unknown variant `" ++ name ++ "`, expected " ++ strategyNames
  | noStrategy => "wanted exactly 1 element, found 0 elements"
  | severalStrategies => "wanted exactly 1 element, more than 1 element"
  | notNamed => "wanted string or table"
  | notEmptyArray => "expected empty array"
  | notEmptyTable => "expected empty table"
  | notTable found => "expected table, found " ++ typeName found

abbrev Decoder (α : Type) := Value → Except DecodeError α

/-! ### Settings -/

def Decoder.number : Decoder Nat
  | .integer n => if 0 ≤ n ∧ n < Nat.pow 2 64 then .ok n.toNat else .error (.outOfRange n)
  | v => .error (.wrongType v .number)

def Decoder.string : Decoder String
  | .string s => .ok s
  | v => .error (.wrongType v .string)

def Decoder.boolean : Decoder Bool
  | .boolean b => .ok b
  | v => .error (.wrongType v .boolean)

def Decoder.strings : Decoder (List String)
  | .array items => items.mapM Decoder.string
  | v => .error (.wrongType v .sequence)

def Decoder.named (name : String) : Except DecodeError Strategy :=
  match Strategy.ofKey? name with
  | some s => .ok s
  | none => .error (.unknownStrategy name)

/-- A strategy by its name, or as the only key of a table that holds nothing. -/
def Decoder.strategy : Decoder Strategy
  | .string name => named name
  | .table [] => .error .noStrategy
  | .table [(name, content)] => do
    let s ← named name
    match content with
    | .array [] => .ok s
    | .array _ => .error .notEmptyArray
    | .table [] => .ok s
    | .table _ => .error .notEmptyTable
    | v => .error (.notTable v)
  | .table _ => .error .severalStrategies
  | _ => .error .notNamed

/-! ### Sections -/

/-- A setting of a section: its key, and how it is put in. -/
structure Setting (α : Type) where
  key : String
  put : α → Value → Except DecodeError α

/-- One entry of a table. -/
def putEntry {α : Type} (settings : List (Setting α)) (a : α) (entry : String × Value) :
    Except DecodeError α :=
  match settings.find? (·.key = entry.1) with
  | some setting => setting.put a entry.2
  | none => .ok a

/-- A section over its defaults. A date has no keys that count. -/
def decodeSection {α : Type} (name : String) (default : α) (settings : List (Setting α)) :
    Decoder α
  | .table entries => entries.foldlM (putEntry settings) default
  | .datetime => .ok default
  | .array items => (settings.zip items).foldlM (fun a (setting, v) => setting.put a v) default
  | v => .error (.wrongType v (.section name))

def Listener.ofValue : Decoder Listener :=
  decodeSection "ListenerConfig" {}
    [⟨"bind_address", fun a v => return { a with bindAddress := ← Decoder.string v }⟩]

def Backends.ofValue : Decoder Backends :=
  decodeSection "PoolConfig" {}
    [⟨"strategy", fun a v => return { a with strategy := ← Decoder.strategy v }⟩,
      ⟨"backends", fun a v => return { a with backends := ← Decoder.strings v }⟩]

def HealthCheck.ofValue : Decoder HealthCheck :=
  decodeSection "HealthCheckConfig" {}
    [⟨"interval_secs", fun a v => return { a with intervalSecs := ← Decoder.number v }⟩,
      ⟨"timeout_secs", fun a v => return { a with timeoutSecs := ← Decoder.number v }⟩,
      ⟨"path", fun a v => return { a with path := ← Decoder.string v }⟩]

def Forwarding.ofValue : Decoder Forwarding :=
  decodeSection "UpstreamConfig" {}
    [⟨"timeout_secs", fun a v => return { a with timeoutSecs := ← Decoder.number v }⟩]

def Observability.ofValue : Decoder Observability :=
  decodeSection "ObservabilityConfig" {}
    [⟨"log_level", fun a v => return { a with logLevel := ← Decoder.string v }⟩,
      ⟨"json", fun a v => return { a with json := ← Decoder.boolean v }⟩]

def ofValue : Decoder Config :=
  decodeSection "BalancerConfig" {}
    [⟨"listener", fun a v => return { a with listener := ← Listener.ofValue v }⟩,
      ⟨"balancer", fun a v => return { a with balancer := ← Backends.ofValue v }⟩,
      ⟨"health_check", fun a v => return { a with healthCheck := ← HealthCheck.ofValue v }⟩,
      ⟨"upstream", fun a v => return { a with forwarding := ← Forwarding.ofValue v }⟩,
      ⟨"observability", fun a v => return { a with observability := ← Observability.ofValue v }⟩]

end Sluice.Config
