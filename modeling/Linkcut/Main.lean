import Linkcut.Launch
import Linkcut.Settings.Load
import Std.Time.DateTime

/-!
The command line: it reads the settings from the environment and from `.env`, writes what a launch
writes, and ends with its status.
-/

set_option autoImplicit false

namespace Linkcut.Main

/-- The variables that set a field or are read by the server. -/
def environment : IO (List (String × String)) := do
  let fields := Settings.Field.names.flatMap fun n => [n, n.map Char.toUpper]
  let names := Server.processesName :: fields
  names.filterMapM fun n => do return (← IO.getEnv n).map fun v => (n, v)

def file : IO (Option (List UInt8)) := do
  try return some (← IO.FS.readBinFile Settings.fileName).toList
  catch _ => return none

/-- The time in universal time. -/
def now : IO Log.Moment := do
  let t ← Std.Time.Timestamp.now
  let d := Std.Time.PlainDateTime.ofWallTime (t.toWallTime .zero)
  return ⟨d.year.toInt.toNat, d.month.val.toNat, d.day.val.toNat, d.hour.val.toNat,
    d.minute.val.toNat, d.second.val.toNat, (d.nanosecond.val / 1000).toNat⟩

def describe : Settings.Refusal → List String
  | .rejected rs => rs.map fun r => r.name ++ ": " ++ r.reason.message
  | .misdirected m => [m.message]
  | .fault f => [f.brief]

end Linkcut.Main

open Linkcut in
def main : IO UInt32 := do
  let environment ← Main.environment
  match Settings.load [] environment (← Main.file) with
  | .error r =>
    for line in Main.describe r do IO.eprintln line
    return 1
  | .ok settings =>
    let outcome := Launch.run settings environment usualMost (← Main.now)
    IO.print outcome.output
    if let some f := outcome.fault then
      IO.eprintln f.brief
      return 1
    return UInt32.ofNat (outcome.exit.getD 0)
