import FlowCheck.CommandLine.Execution
import FlowCheck.Logging.Settings

/-!
# The program

A run of the program reads its command line, opens the log, runs the command and writes what it has to say.  All of it
is a function of the files and the variables that the program finds.
-/

namespace FlowCheck.CommandLine

open Logging

/-- The log of a run. -/
structure Log where
  console : ConsoleOutput
  /-- The path of the log file, if one is written. -/
  file : Option String
  filter : Filter

/-- What a run of the program leaves behind. -/
structure Run where
  status : Nat
  stdout : String := ""
  stderr : String := ""
  workspace : Workspace

/-- The context of a command. -/
def Command.context (command : Command) (w : Workspace) : Context :=
  .detect command.forMachine (w.valueOf? "CI")

/-- Makes the directory of the log file and the file, if it is not there. -/
def openLogFile (w : Workspace) (path : String) : Except Logging.Fault Workspace := do
  let directory := FilePath.parent path
  let w ← (w.makeDirectories directory).mapError (.cannotCreate directory)
  (w.append path "").mapError (.cannotOpen path)

/-- Opens the log for a command. -/
def openLog (w : Workspace) (context : Context) : Except Logging.Fault (Log × Workspace) := do
  let settings ← Settings.load w (some w.directory)
  let filter ← settings.filter w
  let path ← settings.logFile w w.directory
  let w ← if settings.writeFile then openLogFile w path else pure w
  let file := if settings.writeFile then some path else none
  return ({ console := context.select settings.console, file, filter }, w)

/-- The first event of a log. -/
def Log.opening (log : Log) (context : Context) : Event where
  level := .debug
  target := "flowdsl::logging"
  message := "logging initialized"
  fields := [("context", context.name), ("console", log.console.name), ("file", toString log.file.isSome)]

/-- Sets all lines of a text in; `first` is what stands before the first line. -/
private def setIn (first : String) (text : String) : String :=
  match text.splitOn "\n" with
  | [] => first
  | line :: more => "\n".intercalate ((first ++ line) :: more.map ("".pushn ' ' first.length ++ ·))

/-- An error and what it comes from; with several causes they are numbered. -/
def failureText (message : String) (causes : List String) : String :=
  let entries := match causes with
    | [cause] => [setIn "    " cause]
    | causes => causes.mapIdx fun i cause => setIn s!"    {i}: " cause
  "Error: " ++ message ++ (if causes.isEmpty then "" else "\n\nCaused by:\n") ++ "\n".intercalate entries ++ "\n"

/-- Writes the lines of the log and what the command printed. -/
def Execution.finish (execution : Execution) (log : Log) (opening : Event) (time : String) (w : Workspace) : Run :=
  let logged := (opening :: execution.events).filter log.filter.allows
  let lines := String.join (logged.map fun event => event.line time ++ "\n")
  let w := (log.file.bind fun path => (w.append path lines).toOption).getD w
  let stream (output : ConsoleOutput) (printed : String) : String :=
    (if log.console = output then lines else "") ++ printed
  let failure := match execution.outcome with
    | .ok _ => ""
    | .error error => failureText error.text []
  let status := match execution.outcome with
    | .ok true => 0
    | _ => 1
  { status
    stdout := stream .stdout execution.stdout
    stderr := stream .stderr (execution.stderr ++ failure)
    workspace := w }

/-- Runs the program with the arguments after its name; `time` is when its events happen. -/
def run (w : Workspace) (time : String) (arguments : List String) : Run :=
  match Command.ofArguments arguments with
  | .error stop =>
    if stop.isAnswer then { status := 0, stdout := stop.text, workspace := w }
    else { status := 2, stderr := stop.text, workspace := w }
  | .ok command =>
    let context := command.context w
    match openLog w context with
    | .error fault => { status := 1, stderr := failureText "failed to initialize logging" fault.causes, workspace := w }
    | .ok (log, w) => (command.run w).finish log (log.opening context) time w

end FlowCheck.CommandLine
