import CronLint.Command.Run
import CronLint.Settings.Reference
import Std.Time.Zoned

/-!
# The program

Gathers what a command needs from the host, runs it, and prints its output.
-/
namespace CronLint.Main

/-- Reads all bytes of a stream. -/
partial def readToEnd (stream : IO.FS.Stream) (found : Bytes) : IO Bytes := do
  let piece ← stream.read 65536
  if piece.isEmpty then return found else readToEnd stream (found ++ piece.toList)

def lookAt (path : String) : IO (Except FileFault Node) := do
  let place := (← IO.currentDir) / path
  if ← place.isDir then return .ok .directory
  if ← place.pathExists then
    try
      return .ok (.file (← IO.FS.readBinFile place).toList)
    catch _ =>
      return .ok (.unreadable .permissionDenied)
  return .error .missing

def namedFile? : Except Command.UsageFault Command → Option String
  | .ok (.check o) => o.file
  | .ok (.stats o) => o.file
  | _ => none

def readsInput : Except Command.UsageFault Command → Bool
  | .ok (.check o) => o.fromInput
  | .ok (.stats o) => o.fromInput
  | _ => false

def environment : IO (List (String × String)) := do
  Settings.overrides.filterMapM fun (name, _) => do
    return (← IO.getEnv name).map fun value => (name, value)

def userCrontab : IO ProgramResult := do
  let user := (← IO.getEnv "USER").getD ""
  match ← lookAt ("/var/spool/cron/crontabs/" ++ user) with
  | .ok (.file content) => return ⟨0, content, []⟩
  | _ => return ⟨1, [], []⟩

def gather (command : Except Command.UsageFault Command) : IO Host := do
  let files ← match namedFile? command with
    | none => pure []
    | some name => do
      match ← lookAt name with
      | .ok node => pure [(Path.ofText name, node)]
      | .error _ => pure []
  let home := (← IO.getEnv "HOME").getD ""
  return {
    files
    config := ← lookAt (home ++ "/.cronkit/config.yaml")
    environment := ← environment
    crontab := some (← userCrontab)
    input := ← if readsInput command then do readToEnd (← IO.getStdin) [] else pure [] }

def now : IO Calendar.Instant := do
  let t ← Std.Time.Timestamp.now
  return .utc (Calendar.epochDay * Calendar.microsPerDay + t.toNanosecondsSinceUnixEpoch.val / 1000)

def finish : Command.Outcome → IO UInt32
  | .finished status output => do
    IO.print output
    return status.toUInt32
  | .misused f => do
    IO.eprintln f.message
    return 2
  | .halted h => do
    IO.eprintln h.message
    return 1

end CronLint.Main

def main (arguments : List String) : IO UInt32 := do
  let host ← CronLint.Main.gather (CronLint.Command.ofWords arguments)
  let outcome := CronLint.Command.runWords arguments CronLint.Settings.Libraries.reference host
    (← CronLint.Main.now)
  CronLint.Main.finish outcome
