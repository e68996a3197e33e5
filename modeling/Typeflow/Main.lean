import Typeflow.CommandLine

set_option autoImplicit false

namespace Typeflow.LocalDisk

def tooLongCode : UInt32 := 36

def unreachable : IO.Error → Unreachable
  | .noFileOrDirectory .. => .missing
  | .inappropriateType .. => .throughFile
  | .invalidArgument _ code _ => if code == tooLongCode then .tooLong else .invalid
  | .permissionDenied .. => .other "permission denied"
  | why => .other (toString why)

def kind : IO.FS.FileType → Entry
  | .dir => .directory
  | _ => .file

def place (path : String) : IO.FS.DirEntry := ⟨path, ""⟩

def stat (path : String) : IO (Except Unreachable Entry) := do
  try
    return .ok (kind (← (place path).root.metadata).type)
  catch why => return .error (unreachable why)

def read (path : String) : IO (Except Unreadable String) := do
  match ← stat path with
  | .error why => return .error (.unreachable why)
  | .ok .directory => return .error .directory
  | .ok .file =>
    try
      return .ok (Text.lossy (← IO.FS.readBinFile path).toList)
    catch why => return .error (.unreachable (unreachable why))

-- A link in a directory is no directory, whatever it leads to.
def list (path : String) : IO (Except Unreachable (List (String × Entry))) := do
  try
    let entries ← (place path).root.readDir
    let found ← entries.toList.mapM fun e => do
      return (e.fileName, kind (← e.path.symlinkMetadata).type)
    return .ok (found.mergeSort fun a b => a.1 ≤ b.1)
  catch why => return .error (unreachable why)

def disk : IO (Disk IO) := do
  return ⟨(← IO.currentDir).toString, stat, read, list⟩

-- Colours are off by default where the environment says so.
def defaults : IO CommandLine.Options := do
  return { color := ((← IO.getEnv "NO_COLOR").getD "").isEmpty }

end Typeflow.LocalDisk

open Typeflow in
def main (args : List String) : IO UInt32 := do
  let outcome ← CommandLine.run (← LocalDisk.disk) (← LocalDisk.defaults) args
  (← IO.getStdout).putStr outcome.stdout
  (← IO.getStderr).putStr outcome.stderr
  return outcome.exitCode.toUInt32
