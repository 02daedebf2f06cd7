import FlowCheck.CommandLine.Program
import FlowCheck.Logging.Clock
import Std.Time.DateTime.Timestamp

/-!
# The executable

Finds the files and the variables that a run may look at, runs the program on them, and writes what it leaves behind.
-/

namespace FlowCheck.Main

/-- The variables that the program looks at. -/
def variableNames : List String :=
  ["CI", "RUST_LOG", "FLOWDSL_LOG_LEVEL", "FLOWDSL_LOG_CONSOLE", "FLOWDSL_LOG_DIR", "FLOWDSL_RULES_CYCLES",
    "FLOWDSL_RULES_SELF_REFERENCE", "FLOWDSL_RULES_UNREACHABLE_STEPS", "FLOWDSL_RULES_DISABLED",
    "FLOWDSL_LIMITS_MAX_INPUT_BYTES", "FLOWDSL_LIMITS_MAX_NESTING_DEPTH", "FLOWDSL_LIMITS_MAX_STEPS",
    "FLOWDSL_LIMITS_MAX_TRIGGERS", "FLOWDSL_LIMITS_MAX_POLICIES_PER_STEP"]

/-- What stands at a place, if anything does. -/
def entryAt? (place : List String) : IO (Option FileEntry) := do
  try
    let path ← IO.FS.realPath (Workspace.absolutePath place)
    if ← path.isDir then return some .directory
    match String.fromUTF8? (← IO.FS.readBinFile path) with
    | some text => return some (.text text)
    | none => return some .bytes
  catch _ => return none

/-- Adds what stands at a place and on the way there. -/
def discover (w : Workspace) (place : List String) : IO Workspace := do
  let mut w := w
  for i in [0:place.length + 1] do
    if let some entry ← entryAt? (place.take i) then w := w.put (place.take i) entry
  return w

/-- The surroundings of a run. -/
def surroundings (arguments : List String) : IO Workspace := do
  let root := ((← IO.currentDir).toString.splitOn "/").filter (!·.isEmpty)
  let mut environment := []
  for name in variableNames do
    if let some value ← IO.getEnv name then environment := (name, value) :: environment
  let mut w : Workspace := { root, entries := [], environment }
  let settingsFile := FilePath.join (Logging.stateDirectory w.directory) "logging.toml"
  for path in ValidatorConfig.fileName :: settingsFile :: arguments do
    w ← discover w (w.placeOf path)
  if let .ok settings := Logging.Settings.load w (some w.directory) then
    if let .ok path := settings.logFile w w.directory then
      w ← discover w (w.placeOf path)
  return w

/-- Writes the files and directories that a run has changed. -/
def save (before after : Workspace) : IO Unit := do
  for (place, entry) in after.entries.reverse do
    if before.entries.lookup place != some entry then
      match entry with
      | .directory => IO.FS.createDirAll (Workspace.absolutePath place)
      | .text text => IO.FS.writeFile (Workspace.absolutePath place) text
      | .bytes => pure ()

end FlowCheck.Main

open FlowCheck in
/-- Runs the program on its command line. -/
def main (arguments : List String) : IO UInt32 := do
  let w ← Main.surroundings arguments
  let now ← Std.Time.Timestamp.now
  let done := CommandLine.run w (Logging.timeStamp now.toNanosecondsSinceUnixEpoch.toInt.toNat) arguments
  Main.save w done.workspace
  (← IO.getStdout).putStr done.stdout
  (← IO.getStderr).putStr done.stderr
  return done.status.toUInt32
