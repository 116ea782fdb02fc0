import TypeExchange.Command.Outcome

/-! The program on the command line. -/
namespace TypeExchange

def readBytes (path : String) : IO (Except FileFault ByteArray) := do
  if let some fault := pathFault? path then return .error fault
  try
    return .ok (← IO.FS.readBinFile path)
  catch
    | .noFileOrDirectory .. => return .error .missing
    | .inappropriateType _ 21 _ => return .error .directory
    | .inappropriateType .. => return .error .notDirectory
    | .invalidArgument _ 36 _ => return .error .nameTooLong
    | .permissionDenied .. => return .error (.other "Permission denied (os error 13)")
    | e => return .error (.other (toString e))

/-- Reads the file of a table, prints and returns the exit code. The lines of the log are written
without their times. -/
def runProgram (words : List String) : IO UInt32 := do
  let content ← match (Invocation.ofArguments words).toOption.bind (·.table) with
    | some path => readBytes path
    | none => pure (.error .missing)
  let run := Run.ofArguments (fun _ => content) words
  IO.print run.stdout
  IO.eprint (run.stderr Log.Line.plain)
  return run.exitCode.toUInt32

end TypeExchange

def main (words : List String) : IO UInt32 := TypeExchange.runProgram words
