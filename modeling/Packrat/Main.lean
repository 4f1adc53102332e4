import Packrat.Tool.Command

/-! The command line tool. -/
open Packrat

/-- What the system says about a failure, by its number. -/
def systemReason (number : UInt32) (fallback : String) : String :=
  let text := match number with
    | 1 => "Operation not permitted"
    | 2 => "No such file or directory"
    | 13 => "Permission denied"
    | 17 => "File exists"
    | 20 => "Not a directory"
    | 21 => "Is a directory"
    | 28 => "No space left on device"
    | 30 => "Read-only file system"
    | 36 => "File name too long"
    | 40 => "Too many levels of symbolic links"
    | _ => fallback
  text ++ " (os error " ++ toString number ++ ")"

def accessReason : IO.Error → String
  | .noFileOrDirectory _ number details => systemReason number details
  | .permissionDenied _ number details => systemReason number details
  | .inappropriateType _ number details => systemReason number details
  | .invalidArgument _ number details => systemReason number details
  | .resourceExhausted _ number details => systemReason number details
  | .otherError number details => systemReason number details
  | e => e.toString

def systemFiles : FileAccess IO where
  read path := do
    match ← (IO.FS.readFile path).toBaseIO with
    | .ok text => return .ok text
    | .error e => return .error (accessReason e)
  write path text := do
    match ← (IO.FS.writeFile path text).toBaseIO with
    | .ok () => return .ok ()
    | .error e => return .error (accessReason e)

def main (args : List String) : IO UInt32 := do
  let report ← Tool.run systemFiles (← IO.getEnv "RUST_LOG") args
  IO.eprint report.errors
  IO.print report.output
  return report.code.toUInt32
