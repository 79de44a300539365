/-! Files, as far as reading one needs them. -/
namespace Sluice

/-- Why a file cannot be read as text. -/
inductive ReadError where
  | notFound
  | permissionDenied
  | notDirectory
  | isDirectory
  | nameTooLong
  | nulInName
  | notText
deriving DecidableEq, Repr

namespace ReadError

/-- The number of the error in the operating system, its kind and its words. -/
def system : ReadError → Option (Nat × String × String)
  | notFound => some (2, "NotFound", "No such file or directory")
  | permissionDenied => some (13, "PermissionDenied", "Permission denied")
  | notDirectory => some (20, "NotADirectory", "Not a directory")
  | isDirectory => some (21, "IsADirectory", "Is a directory")
  | nameTooLong => some (36, "InvalidFilename", "File name too long")
  | nulInName | notText => none

/-- The kind and the words of an error that the operating system knows nothing of. -/
def own : ReadError → String × String
  | nulInName => ("InvalidInput", "file name contained an unexpected NUL byte")
  | _ => ("InvalidData", "stream did not contain valid UTF-8")

def message (e : ReadError) : String :=
  match e.system with
  | some (code, _, words) => words ++ " (os error " ++ toString code ++ ")"
  | none => e.own.2

/-- The error as a failing start shows it. -/
def dump (e : ReadError) : String :=
  match e.system with
  | some (code, kind, words) =>
    "Os \x7b code: " ++ toString code ++ ", kind: " ++ kind ++ ", message: \"" ++ words ++ "\" \x7d"
  | none => "Error \x7b kind: " ++ e.own.1 ++ ", message: \"" ++ e.own.2 ++ "\" \x7d"

end ReadError

/-- What reading a path gives. -/
abbrev Files := String → Except ReadError ByteArray

namespace Files

/-- The longest path, and the longest name in one. -/
def maxPath : Nat := 4095
def maxName : Nat := 255

/-- Directories that are always there. -/
def directories : List String :=
  [".", "..", "/bin", "/dev", "/etc", "/home", "/proc", "/tmp", "/usr", "/var"]

/-- The root or one of these directories, with slashes behind it or not. -/
def isDirectory (path : String) : Bool :=
  let name := (path.toList.reverse.dropWhile (· = '/')).reverse
  !path.isEmpty && (name.isEmpty || directories.contains (String.ofList name))

/-- The device in which there is nothing to read. -/
def nullDevice : String :=
  "/dev/null"

/-- What can be said of a path whatever the files. -/
def checkName (path : String) : Except ReadError Unit :=
  if path.contains '\x00' then .error .nulInName
  else if path.utf8ByteSize > maxPath ∨ (path.splitOn "/").any (·.utf8ByteSize > maxName) then
    .error .nameTooLong
  else .ok ()

/-- One file, or none, and nothing else but directories. -/
def single (name : String) (content : Option ByteArray) : Files := fun path => do
  checkName path
  match content with
  | some bytes =>
    if path = name then return bytes
    if path.startsWith (name ++ "/") then .error .notDirectory
  | none => pure ()
  if path = nullDevice then return .empty
  if isDirectory path then .error .isDirectory else .error .notFound

end Files
end Sluice
