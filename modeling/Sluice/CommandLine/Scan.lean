/-! Reading command lines.

Options have a long name, some a letter too; those that take a value take exactly one, in the same
argument or in the next. Letters may be joined, and two hyphens end all options. An option is
settled — its value checked, a second mention refused — when the next one begins, not before; so an
unknown option is found before the value of the one in front of it is looked at. -/
namespace Sluice.CommandLine

/-- Why a command line is not carried out. -/
inductive Refusal where
  | unknownArgument
  | invalidValue
  | valueValidation
  | argumentConflict
  | tooManyValues
  | help (long : Bool)
  | version
deriving DecidableEq, Repr

namespace Refusal

/-- Help and version are asked for, and no failure. -/
def exitCode : Refusal → Nat
  | help _ | version => 0
  | _ => 2

end Refusal

/-- What an option is for. A value is checked when the option is settled. -/
inductive Use where
  | switch
  | value (check : String → Option Refusal)
  | help
  | version

structure Opt (ι : Type) where
  id : ι
  long : String
  letter : Option Char
  use : Use

/-- The options of a program, and whether it takes arguments that are none. -/
structure Options (ι : Type) where
  options : List (Opt ι)
  operands : Bool

/-- What has been read: the options that are settled, each with its value; the operands; the option
that is not settled yet, whether the next argument is its value, and whether options have ended. -/
structure Scan (ι : Type) where
  settled : List (ι × String)
  operands : List String
  pending : Option (Opt ι × Option String)
  awaiting : Bool
  ended : Bool

namespace Scan
variable {ι : Type} [DecidableEq ι]

def start : Scan ι := ⟨[], [], none, false, false⟩

/-- Settles an option, with its value if it has been given one. -/
def settle (s : Scan ι) (o : Opt ι) (value : Option String) : Except Refusal (Scan ι) :=
  match o.use, value with
  | .help, _ => .error (.help true)
  | .version, _ => .error .version
  | .value _, none => .error .invalidValue
  | .switch, _ =>
    if s.settled.any (·.1 = o.id) then .error .argumentConflict
    else .ok { s with settled := s.settled ++ [(o.id, "")] }
  | .value check, some v =>
    if s.settled.any (·.1 = o.id) then .error .argumentConflict
    else match check v with
      | some refusal => .error refusal
      | none => .ok { s with settled := s.settled ++ [(o.id, v)] }

/-- Settles the option that is pending. -/
def settlePending (s : Scan ι) : Except Refusal (Scan ι) :=
  match s.pending with
  | some (o, value) => settle { s with pending := none, awaiting := false } o value
  | none => .ok s

/-- An option with its value in the same argument, or without any. -/
def mention (s : Scan ι) (o : Opt ι) (value : Option String) : Except Refusal (Scan ι) := do
  let s ← s.settlePending
  match o.use, value with
  | .value _, none => return { s with pending := some (o, none), awaiting := true }
  | _, value => s.settle o value

/-- An option by its long name. -/
def long (os : Options ι) (s : Scan ι) (text : List Char) : Except Refusal (Scan ι) :=
  let name := text.takeWhile (· ≠ '=')
  let value := match text.drop name.length with
    | _ :: v => some (String.ofList v)
    | [] => none
  match os.options.find? (·.long = String.ofList name) with
  | none => .error .unknownArgument
  | some o =>
    match o.use, value with
    | .value _, value => s.mention o value
    | _, some _ => .error .tooManyValues
    | _, none => s.mention o none

/-- Options by their letters. The rest of the argument is the value of the first that takes one; an
equals sign in front of it is dropped. -/
def letters (os : Options ι) (s : Scan ι) : List Char → Except Refusal (Scan ι)
  | [] => .ok s
  | c :: rest =>
    match os.options.find? (·.letter = some c) with
    | none => .error .unknownArgument
    | some o =>
      match o.use with
      | .value _ =>
        match rest with
        | [] => s.mention o none
        | '=' :: v => s.mention o (some (String.ofList v))
        | v => s.mention o (some (String.ofList v))
      | .help => do
        let _ ← s.settlePending
        .error (.help false)
      | _ => do letters os (← s.mention o none) rest

/-- An argument that is neither an option nor the value of one. -/
def operand (os : Options ι) (s : Scan ι) (text : String) : Except Refusal (Scan ι) := do
  if !os.operands then .error .unknownArgument
  let s ← s.settlePending
  return { s with operands := s.operands ++ [text] }

def next (os : Options ι) (s : Scan ι) (arg : String) : Except Refusal (Scan ι) :=
  if s.ended then s.operand os arg
  else
    match arg.toList with
    | ['-', '-'] => .ok { s with ended := true }
    | '-' :: '-' :: text => s.long os text
    | '-' :: c :: rest => s.letters os (c :: rest)
    | _ =>
      match s.awaiting, s.pending with
      | true, some (o, _) => .ok { s with pending := some (o, some arg), awaiting := false }
      | _, _ => s.operand os arg

end Scan

/-- A command line that can be carried out. -/
structure Parsed (ι : Type) where
  given : List (ι × String)
  operands : List String

/-- Reads all arguments. -/
def Options.parse {ι : Type} [DecidableEq ι] (os : Options ι) (args : List String) :
    Except Refusal (Parsed ι) := do
  let s ← (← args.foldlM (Scan.next os) .start).settlePending
  return ⟨s.settled, s.operands⟩

/-! ### Values -/

/-- A number that `bound` is greater than; a plus sign may stand in front. -/
def natBelow? (bound : Nat) (s : String) : Option Nat :=
  let digits := match s.toList with
    | '+' :: rest => rest
    | all => all
  if !digits.isEmpty && digits.all Char.isDigit then
    let n := digits.foldl (fun n c => n * 10 + (c.toNat - '0'.toNat)) 0
    if n < bound then some n else none
  else none

/-- The check for a number. -/
def checkNat (bound : Nat) (s : String) : Option Refusal :=
  if (natBelow? bound s).isSome then none else some .valueValidation

/-- The check for a text of any kind. -/
def checkNothing (_ : String) : Option Refusal :=
  none

end Sluice.CommandLine
