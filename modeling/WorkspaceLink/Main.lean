import WorkspaceLink.Watch.Rehearsal

/-!
# The command line

Reads the environment and the settings file, runs the command, and prints what it reports. The
command has no network of its own, so every connection is refused.
-/
namespace WorkspaceLink

def environmentNames : List String := Settings.pathKey :: "HOME" :: Variable.all.map Variable.key

def readEnvironment : IO Environment := do
  let mut values : List (String × String) := []
  for name in environmentNames do
    if let some value ← IO.getEnv name then values := (name, value) :: values
  return fun name => values.lookup name

/-- What stands at the path of the settings file. -/
def readSettingsFile (path : String) : IO SettingsFile := do
  try
    return .bytes (← IO.FS.readBinFile path)
  catch
    | .noFileOrDirectory .. => return .missing
    | _ => return .directory

def runWatch (arguments : List String) : IO UInt32 := do
  let env ← readEnvironment
  let file ←
    match Arguments.parse arguments with
    | .error _ => pure SettingsFile.missing
    | .ok parsed => readSettingsFile (parsed.settings.getD (Settings.path env))
  let (report, _) := Rehearsal.perform arguments env (fun _ => file) {}
  for line in report.output do
    IO.println line
  for line in report.error do
    IO.eprintln line
  return report.code.toUInt32

end WorkspaceLink

def main (arguments : List String) : IO UInt32 := WorkspaceLink.runWatch arguments
