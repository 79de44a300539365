import Sluice.Program

/-! The command line of the balancer.

The file that the arguments name is read, the program is started on it, and what comes of the start
is printed. A balancer that serves does so until its standard input ends. -/
namespace Sluice.Main

/-- What the operating system says of a file it does not give. A path through a file cannot be
opened, and then its name is told; a directory can, and is not read. -/
def readError : IO.Error → ReadError
  | .permissionDenied .. => .permissionDenied
  | .inappropriateType (some _) .. => .notDirectory
  | .inappropriateType none .. => .isDirectory
  | _ => .notFound

def readFile (path : String) : IO (Except ReadError ByteArray) := do
  match Files.checkName path with
  | .error e => return .error e
  | .ok () =>
    try return .ok (← IO.FS.readBinFile path)
    catch e => return .error (readError e)

/-- The only file that is ever asked for, read beforehand. -/
def filesFor (args : List String) : IO Files := do
  match (Flags.parse args).toOption.bind (·.config) with
  | some path => do
    let content ← readFile path
    return fun _ => content
  | none => return fun _ => .error .notFound

def waitForEnd : IO Unit := do
  let input ← IO.getStdin
  let mut line ← input.getLine
  while !line.isEmpty do
    line ← input.getLine

def run (args : List String) : IO UInt32 := do
  let start := Program.balancer .isolated (← filesFor args) args
  match start with
  | .printed text => IO.print text
  | .refused _ => IO.eprintln Flags.usage
  | .failed message => IO.eprint (message.getD (Program.failure "Parse"))
  | .serving _ => waitForEnd
  return start.code.toUInt32

end Sluice.Main

def main (args : List String) : IO UInt32 :=
  Sluice.Main.run args
