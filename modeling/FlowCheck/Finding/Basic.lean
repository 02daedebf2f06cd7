import FlowCheck.Finding.Code
import FlowCheck.Path

/-!
# Findings

One finding is one outcome of validation: where, what, under which code, how serious.
-/

namespace FlowCheck

structure Finding where
  /-- The place in the document; `none` for the document as a whole. -/
  path : Option String
  message : String
  code : String
  severity : Severity
  deriving DecidableEq

namespace Finding

def error (path : Path) (code : Code) (message : String) : Finding :=
  ⟨some path.text, message, code.name, .error⟩

def warning (path : Path) (code : Code) (message : String) : Finding :=
  ⟨some path.text, message, code.name, .warning⟩

/-- A part of the document does not have the shape of a flow. -/
def schema (path : String) (message : String) : Finding :=
  ⟨some path, message, Code.schemaValidationError.name, .error⟩

/-- The document as a whole does not have the shape of a flow. -/
def schemaRoot (message : String) : Finding :=
  ⟨none, message, Code.schemaValidationError.name, .error⟩

/-- The text is not a document. -/
def parseError (message : String) : Finding :=
  ⟨none, message, Code.parseError.name, .critical⟩

/-- The document is larger than the limits allow. -/
def limitExceeded (message : String) : Finding :=
  ⟨none, message, Code.inputLimitExceeded.name, .critical⟩

/-- The finding makes the document invalid. -/
def isBlocking (finding : Finding) : Bool :=
  finding.severity.blocks

/-- The finding on one line of a report. -/
def text (finding : Finding) : String :=
  finding.path.getD "<document>" ++ s!": {finding.message} ({finding.code})"

/-- The finding, if there is a reason for it. -/
def when (reason : Bool) (finding : Finding) : List Finding :=
  if reason then [finding] else []

end Finding

end FlowCheck
