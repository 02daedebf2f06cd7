import FlowCheck.Finding.Basic

/-!
# Results of validation

A result has the findings that block and those that do not, each in the order in which they were made.  The text of a
result has one line as a header and, under a title for each kind, one line for each finding.
-/

namespace FlowCheck

structure ValidationResult where
  errors : List Finding
  warnings : List Finding
  deriving DecidableEq

namespace ValidationResult

/-- Splits findings by whether they block. -/
def ofFindings (findings : List Finding) : ValidationResult :=
  ⟨findings.filter (·.isBlocking), findings.filter (!·.isBlocking)⟩

/-- Nothing blocks. -/
def valid (result : ValidationResult) : Bool :=
  result.errors.isEmpty

/-- All findings, errors first. -/
def findings (result : ValidationResult) : List Finding :=
  result.errors ++ result.warnings

def hasCode (result : ValidationResult) (code : String) : Bool :=
  result.findings.any (·.code == code)

def header (result : ValidationResult) : String :=
  if result.valid then "Validation passed"
  else s!"Validation failed with {result.errors.length} error(s) and {result.warnings.length} warning(s)"

/-- The lines on findings of one kind. -/
def sectionLines (title : String) (findings : List Finding) : List String :=
  if findings.isEmpty then [] else (title ++ ":") :: findings.map fun finding => "  - " ++ finding.text

/-- The lines of the report. -/
def lines (result : ValidationResult) : List String :=
  result.header :: (sectionLines "Errors" result.errors ++ sectionLines "Warnings" result.warnings)

/-- The report for a terminal. -/
def text (result : ValidationResult) : String :=
  "\n".intercalate result.lines

end ValidationResult

end FlowCheck
