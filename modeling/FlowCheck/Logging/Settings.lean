import FlowCheck.Logging.Console
import FlowCheck.Logging.Filter
import FlowCheck.Toml.Decode
import FlowCheck.Workspace.Basic

/-!
# Settings of the log

The settings come from a file in the state directory of the working directory and from environment variables, which
overrule the file.
-/

namespace FlowCheck.Logging

structure Settings where
  directory : Option String := none
  defaultLevel : String := "warn"
  writeFile : Bool := false
  console : Option ConsoleOutput := none
  deriving DecidableEq

/-- Why there is no log. -/
inductive Fault where
  | unreadable (path : String) (fault : FileFault)
  | malformed (path message : String)
  | badLevel
  | badFilter
  | noDirectory
  | outside (root : String)
  | cannotCreate (directory : String) (fault : FileFault)
  | cannotOpen (path : String) (fault : FileFault)
  deriving DecidableEq

/-- The fault and what it comes from, in words. -/
def Fault.causes : Fault → List String
  | .unreadable path fault => ["failed to read logging config " ++ path, fault.message]
  | .malformed path message => ["failed to parse logging config " ++ path, message]
  | .badLevel => ["logging.default_level must be a valid tracing directive"]
  | .badFilter => ["failed to configure tracing level", "invalid filter directive"]
  | .noDirectory => ["logging.log_dir cannot be empty"]
  | .outside root => ["logging.log_dir resolves outside workspace " ++ root]
  | .cannotCreate directory fault => ["failed to create log directory " ++ directory, fault.message]
  | .cannotOpen path fault => ["failed to open log file " ++ path, fault.message]

/-- What a settings file may say. -/
structure SettingsPart where
  directory : Option String
  defaultLevel : Option String
  writeFile : Option Bool
  console : Option ConsoleOutput

def SettingsPart.record : Record SettingsPart :=
  .of "LoggingSection"
    (.cons (.optional "log_dir" .string) <|
      .cons (.optional "default_level" .string) <|
      .cons (.optional "enable_file" .bool) <|
      .cons (.optional "console_output" (.choice ConsoleOutput.choices)) .nil)
    (fun (directory, defaultLevel, writeFile, console, ()) => { directory, defaultLevel, writeFile, console })
    (fun s => (s.directory, s.defaultLevel, s.writeFile, s.console, ()))
    (fun _ => rfl) (fun _ => rfl)

/-- A settings file. -/
structure SettingsFile where
  logging : Option SettingsPart

def SettingsFile.record : Record SettingsFile :=
  .of "LoggingFile" (.cons (.optional "logging" (.record SettingsPart.record)) .nil)
    (fun (logging, ()) => { logging }) (fun f => (f.logging, ())) (fun _ => rfl) (fun _ => rfl)

/-- The directory for files that the tool keeps. -/
def stateDirectory (root : String) : String :=
  FilePath.join root ".flowdsl"

namespace Settings

/-- The settings after a file. -/
def apply (settings : Settings) (part : SettingsPart) : Settings where
  directory := part.directory.or settings.directory
  defaultLevel := part.defaultLevel.getD settings.defaultLevel
  writeFile := part.writeFile.getD settings.writeFile
  console := part.console.or settings.console

/-- What the file of a directory says. -/
def part? (w : Workspace) (root : String) : Except Fault (Option SettingsPart) := do
  let path := FilePath.join (stateDirectory root) "logging.toml"
  if !w.pathExists path then return none
  let content ← (w.read path).mapError (Fault.unreadable path)
  let file ← (Toml.decode SettingsFile.record content).mapError (Fault.malformed path)
  return file.logging

/-- A variable that is not blank, without the blanks around it. -/
def nonblank? (w : Workspace) (name : String) : Option String :=
  ((w.valueOf? name).map Text.trim).filter (!·.isEmpty)

/-- The settings after the variables; a directory given there asks for a log file. -/
def overrule (w : Workspace) (settings : Settings) : Settings where
  directory := (nonblank? w "FLOWDSL_LOG_DIR").or settings.directory
  defaultLevel := (nonblank? w "FLOWDSL_LOG_LEVEL").getD settings.defaultLevel
  writeFile := settings.writeFile || (nonblank? w "FLOWDSL_LOG_DIR").isSome
  console :=
    ((w.valueOf? "FLOWDSL_LOG_CONSOLE").bind fun text => (ConsoleOutput.ofText text).toOption).or settings.console

def check (settings : Settings) : Except Fault Unit :=
  if (Directive.ofText? settings.defaultLevel).isNone then .error .badLevel
  else if settings.directory = some "" then .error .noDirectory
  else .ok ()

/-- The settings for a directory, or for none. -/
def load (w : Workspace) (root : Option String) : Except Fault Settings := do
  let part ← match root with
    | some root => part? w root
    | none => pure none
  let settings := ((part.map (apply {})).getD {}).overrule w
  settings.check
  return settings

/-- The path of the log file.  A relative directory has to lie in the working directory. -/
def logFile (settings : Settings) (w : Workspace) (root : String) : Except Fault String := do
  let directory := (settings.directory.map (FilePath.join root)).getD (FilePath.join (stateDirectory root) "logs")
  let resolved := (w.canonical? directory).getD directory
  match settings.directory with
  | some given =>
    let anchor := (w.canonical? root).getD root
    if !FilePath.isAbsolute given &&
        ((FilePath.components given).contains .parent || !FilePath.isUnder resolved anchor) then
      throw (.outside anchor)
  | none => pure ()
  return FilePath.join resolved "flowdsl.log"

/-- The filter for events: the one in the variable `RUST_LOG`, or else the default level. -/
def filter (settings : Settings) (w : Workspace) : Except Fault Filter :=
  match ((w.valueOf? "RUST_LOG").bind Filter.ofText?).or (Filter.ofText? settings.defaultLevel) with
  | some filter => .ok filter
  | none => .error .badFilter

end Settings

end FlowCheck.Logging
