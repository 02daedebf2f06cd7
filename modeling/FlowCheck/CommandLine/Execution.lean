import FlowCheck.CommandLine.Command
import FlowCheck.Json.Printer
import FlowCheck.Logging.Progress
import FlowCheck.Schema.Encode
import FlowCheck.Settings.Loading
import FlowCheck.Yaml.Printer

/-!
# Running commands

A command reads files and the configuration and prints a report.  Each file is judged by itself, so that a report does
not depend on the files beside it.
-/

namespace FlowCheck.CommandLine

open Logging (Event)

/-- What a command leaves behind. -/
structure Execution where
  /-- Log events in order; all of them come before anything is printed. -/
  events : List Event := []
  stdout : String := ""
  stderr : String := ""
  /-- Whether all documents are valid, or why there is no answer. -/
  outcome : Except AppError Bool

private def lines (ls : List String) : String :=
  String.join (ls.map (· ++ "\n"))

namespace Execution

private def target : String := "flowdsl::cli::commands"

/-! ## Configuration and documents -/

/-- The configuration in a file that was asked for, or that of the working directory. -/
def config (w : Workspace) : Option String → Except AppError ValidatorConfig
  | some path =>
    if w.pathExists path then ValidatorConfig.load w path
    else .error (({ category := .configuration, message := "config file " ++ path ++ " does not exist" } :
      AppError).withContext "path" path)
  | none => ValidatorConfig.loadFrom w w.directory

/-- The events of loading the configuration. -/
def configEvents (w : Workspace) : Option String → List Event
  | some _ => []
  | none => [{ level := .debug, target, message := "Loading " ++ ValidatorConfig.fileName ++ " from " ++ w.directory }]

/-- The text of a document. -/
def document (w : Workspace) (file : String) : Except AppError String :=
  (w.read file).mapError fun fault =>
    ({ category := .files, message := "failed to read " ++ file ++ ": " ++ fault.message } : AppError).withContext
      "path" file

/-! ## Validation of files -/

/-- A file and its result. -/
structure FileReport where
  file : String
  result : ValidationResult
  deriving DecidableEq

/-- The report on one file.  A file that cannot be read counts as a malformed document. -/
def judge (w : Workspace) (config : ValidatorConfig) (format : InputFormat) (file : String) : FileReport where
  file := file
  result :=
    match document w file with
    | .ok text => validateText config format text
    | .error error => .ofFindings [.parseError error.message]

/-- The events of judging one file. -/
def judgeEvents (w : Workspace) (config : ValidatorConfig) (format : InputFormat) (file : String) : List Event :=
  { level := .info, target, message := "Validating flow document: " ++ file } ::
    match document w file with
    | .ok text => (Outcome.ofText config format text).events
    | .error error => [{ level := .warn, target, message := "Cannot read " ++ file ++ ": " ++ error.text }]

private def findingTree (f : Finding) : Value :=
  .object [("path", (f.path.map Value.string).getD .null), ("message", .string f.message), ("code", .string f.code),
    ("severity", .string f.severity.name)]

/-- A report as a tree. -/
def FileReport.tree (report : FileReport) : Value :=
  .object [("file", .string report.file), ("valid", .bool report.result.valid),
    ("errors", .list (report.result.errors.map findingTree)),
    ("warnings", .list (report.result.warnings.map findingTree))]

/-- The reports as they are printed; a blank line stands between two. -/
def reportText : ReportFormat → List FileReport → String
  | .text, reports => "\n".intercalate (reports.map fun r => lines [r.file, r.result.text])
  | .json, reports => lines [Json.prettyText (.list (reports.map FileReport.tree))]

/-- Validates files. -/
def validate (w : Workspace) (files : List String) (format : InputFormat) (output : ReportFormat)
    (configFile : Option String) : Execution :=
  match config w configFile with
  | .error error => { events := configEvents w configFile, outcome := .error error }
  | .ok config =>
    let reports := files.map (judge w config format)
    { events := configEvents w configFile ++ files.flatMap (judgeEvents w config format)
      stdout := reportText output reports
      outcome := .ok (reports.all (·.result.valid)) }

/-! ## Flows with defaults applied -/

/-- A flow as it is printed, without blanks at the end. -/
def flowText (output : FlowFormat) (flow : Flow) : String :=
  let tree := Value.object (Flow.record.encodeEntries flow)
  let text := match output with
    | .json => Json.prettyText tree
    | .yaml => Yaml.text tree
  String.ofList (Text.dropEndBlanks text.toList)

private def invalid (events : List Event) (result : ValidationResult) : Execution where
  events := events
  stderr := lines [result.text]
  outcome := .ok false

/-- Prints the flow in a document, or why there is none. -/
def normalizeText (config : ValidatorConfig) (format : InputFormat) (output : FlowFormat) (text : String) :
    Execution :=
  match Reading.tree config.limits format text with
  | .error error => invalid [] (.ofFindings error.findings)
  | .ok tree =>
    let outcome := Outcome.ofTree config tree
    if !outcome.result.valid then invalid outcome.events outcome.result
    else
      match Reading.flowOfTree config.limits tree with
      | .error error => { events := outcome.events, outcome := .error (.ofDocumentError error) }
      | .ok flow => { events := outcome.events, stdout := lines [flowText output flow], outcome := .ok true }

/-- Prints the flow in a file. -/
def normalize (w : Workspace) (file : String) (format : InputFormat) (output : FlowFormat)
    (configFile : Option String) : Execution :=
  let before := configEvents w configFile
  let run := do
    let config ← config w configFile
    let text ← document w file
    return normalizeText config format output text
  match run with
  | .ok execution => { execution with events := before ++ execution.events }
  | .error error => { events := before, outcome := .error error }

/-! ## The catalogue -/

/-- The severity of a code, or that it is switched off. -/
private def severityName (code : Code) : String :=
  (code.severity?.map (·.name)).getD "allow"

private def codeTree (code : Code) : Value :=
  .object [("code", .string code.name), ("severity", .string (severityName code))]

/-- The catalogue as it is printed. -/
def catalogueText : ReportFormat → String
  | .text =>
    let width := (Code.all.map (·.name.length)).foldl max 0
    lines (Code.all.map fun code =>
      code.name ++ "".pushn ' ' (width - code.name.length) ++ "  " ++ severityName code)
  | .json => lines [Json.prettyText (.list (Code.all.map codeTree))]

end Execution

/-- Runs a command. -/
def Command.run (w : Workspace) : Command → Execution
  | .validate files format output config => Execution.validate w files format output config
  | .normalize file format output config => Execution.normalize w file format output config
  | .codes output => { stdout := Execution.catalogueText output, outcome := .ok true }

end FlowCheck.CommandLine
