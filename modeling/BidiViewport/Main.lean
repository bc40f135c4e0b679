import BidiViewport.CommandLine.Program

/-!
# The executable

Runs the program on the file system.
-/

namespace BidiViewport

/-- The cause of a failure to read a file.  A path that goes through a file is refused when
it is opened, and the error names it; a directory is refused when it is read. -/
def ReadError.ofIO : IO.Error → ReadError
  | .noFileOrDirectory .. => .notFound
  | .permissionDenied .. => .denied
  | .inappropriateType (some _) .. => .notDirectory
  | .inappropriateType none .. => .isDirectory
  | _ => .denied

/-- The file system as a host. -/
def fileSystem : IO (Host IO) := do
  return {
    read := fun path => do
      try
        return .ok (← IO.FS.readBinFile path)
      catch error =>
        return .error (.ofIO error)
    home := ← IO.getEnv "HOME"
    accountHome := none
    configuration := ← IO.getEnv "XDG_CONFIG_HOME" }

end BidiViewport

open BidiViewport in
/-- Every run leaves a log file behind. -/
def main (arguments : List String) : IO UInt32 := do
  IO.FS.writeFile "ringview.log" ""
  let report ← Program.run (← fileSystem) arguments
  IO.print report.output
  IO.eprint report.errors
  return report.code.toUInt32
