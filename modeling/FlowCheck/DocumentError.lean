import FlowCheck.Entries
import FlowCheck.Finding.Basic
import FlowCheck.Format

/-!
# Errors

A `DocumentError` keeps a document from becoming a flow, in one of three tiers: the text is malformed, it is larger
than the limits allow, or the tree does not have the shape of a flow.  An `AppError` is what the command line and the
configuration report.
-/

namespace FlowCheck

/-- Why a document is not a flow. -/
inductive DocumentError where
  | malformed (format : InputFormat) (message : String)
  | limitExceeded (message : String)
  | schema (findings : List Finding)
  deriving DecidableEq

namespace DocumentError

def text : DocumentError → String
  | malformed format message => s!"failed to parse {format.text} document: " ++ message
  | limitExceeded message => "input rejected: " ++ message
  | schema findings => s!"document does not match the flow schema ({findings.length} problem(s))"

/-- The findings that describe the error. -/
def findings : DocumentError → List Finding
  | malformed format message => [.parseError (malformed format message).text]
  | limitExceeded message => [.limitExceeded message]
  | schema findings => findings

end DocumentError

inductive ErrorCategory where
  | validation
  | parse
  | configuration
  | limit
  | files
  deriving DecidableEq

namespace ErrorCategory

def name : ErrorCategory → String
  | validation => "ValidationError"
  | parse => "ParseError"
  | configuration => "ConfigurationError"
  | limit => "LimitExceeded"
  | files => "IoError"

/-- The code of errors of the category. -/
def code : ErrorCategory → String
  | validation => "VALIDATION_ERROR"
  | parse => "PARSE_ERROR"
  | configuration => "CONFIG_ERROR"
  | limit => "INPUT_LIMIT_EXCEEDED"
  | files => "IO_ERROR"

end ErrorCategory

/-- A failure of a command or of the configuration. -/
structure AppError where
  category : ErrorCategory
  message : String
  /-- What the error concerns, by key. -/
  context : List (String × String) := []
  deriving DecidableEq

namespace AppError

def code (error : AppError) : String :=
  error.category.code

/-- Adds what the error concerns. -/
def withContext (error : AppError) (key value : String) : AppError :=
  { error with context := Entries.insert key value error.context }

def text (error : AppError) : String :=
  s!"[{error.code}] {error.category.name}: " ++ error.message ++
    String.join (error.context.map fun entry => s!" ({entry.1}: {entry.2})")

def ofDocumentError (error : DocumentError) : AppError :=
  let category : ErrorCategory := match error with
    | .malformed _ _ => .parse
    | .limitExceeded _ => .limit
    | .schema _ => .validation
  { category, message := error.text }

end AppError

end FlowCheck
