import RuleScript.Command.Report
import Std.Time.DateTime.Timestamp

/-!
The program: it looks up what the command line asks for outside, and prints the report.
-/
namespace RuleScript

open Command

/-- The text of a file, or why it cannot be read. -/
def readSource (path : String) : IO (Except String String) := do
  try
    return .ok (← IO.FS.readFile path)
  catch
    | .noFileOrDirectory .. => return .error "No such file or directory (os error 2)"
    | error => return .error (toString error)

/-- Everything that is left of a stream. -/
partial def readAll (stream : IO.FS.Stream) (read : String) : IO String := do
  let line ← stream.getLine
  if line.isEmpty then return read else readAll stream (read ++ line)

/-- What an invocation needs from outside. A terminal is not read. -/
def surroundings (invocation : Invocation) : IO Surroundings := do
  let now ← Std.Time.Timestamp.now
  let file ← match invocation.file? with
    | some path => readSource path
    | none => pure (.error "no file")
  let stdin ← IO.getStdin
  let input ← if invocation.readsInput && !(← stdin.isTty) then readAll stdin "" else pure ""
  return ⟨now.toMillisecondsSinceUnixEpoch.val, input, file⟩

end RuleScript

/-- Runs the program. -/
def main (args : List String) : IO UInt32 := do
  let report ← match RuleScript.Command.Invocation.parse args with
    | .error halt => pure halt.report
    | .ok invocation => do pure (invocation.report (← RuleScript.surroundings invocation))
  (← IO.getStdout).putStr report.output
  (← IO.getStderr).putStr report.errors
  return report.exitCode.toUInt32
