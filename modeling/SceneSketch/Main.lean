import SceneSketch.Command.Run

/-!
# The program

Collects the settings and the files that a command line names, runs it, and prints and writes what
it gives.
-/

namespace SceneSketch

/-- The variables of the environment that are settings, in capitals or small letters, and those that
a settings file refers to. -/
def environmentVariables (file : String) : IO (List (String × String)) := do
  let spellings := Settings.names.flatMap fun name => [capitals name, name]
  let values ← (spellings ++ SettingsFile.referredNames file).mapM fun name =>
    return (name, ← IO.getEnv name)
  return values.filterMap fun (name, value) => value.map ((name, ·))

def fileBytes? (path : String) : IO (Option ByteArray) := do
  try return some (← IO.FS.readBinFile path) catch _ => return none

def folderExists (path : String) : IO Bool := do
  try (← IO.FS.realPath path).isDir catch _ => return false

def workspaceOfArguments (args : List String) : IO Workspace := do
  let paths := match commandName args with
    | .ok (some name, rest) => ((Command.parse name rest).toOption.map Command.paths).getD []
    | _ => []
  let places := ((paths.flatMap placesOfPath).map Place.text).eraseDups
  let files ← places.mapM fun place => return (← fileBytes? place).map ((place, ·))
  return { files := files.filterMap id, folders := ← places.filterM folderExists }

def writeChanges (before after : Workspace) : IO Unit := do
  for (path, bytes) in after.files do
    if before.files.lookup path != some bytes then IO.FS.writeBinFile path bytes

def exitCode : Ending → IO UInt32
  | .exit code => return code.toUInt32
  | .failed fault => do
    IO.eprintln ("Error: " ++ fault.message.escaped)
    return match fault with
      | .usage _ | .argument _ => 2
      | _ => 1

end SceneSketch

open SceneSketch in
def main (args : List String) : IO UInt32 := do
  let file := ((← fileBytes? ".env").bind textOfBytes?).getD ""
  match Settings.load (← environmentVariables file) file with
  | .accepted settings =>
    let before ← workspaceOfArguments args
    let report := runCommandLine settings before args
    writeChanges before report.files
    IO.print report.out
    IO.eprint report.err
    exitCode report.ending
  | .rejected issues =>
    for issue in issues do IO.eprintln ("Error: " ++ issue.problem.message)
    return 1
  | .containerKey c =>
    IO.eprintln ("Error: " ++ c.message)
    return 1
