import FlowCheck.Reading
import FlowCheck.Report
import FlowCheck.Rules.Registry
import FlowCheck.Settings.Config

/-!
# Validation

A document is rejected when it cannot be read within the limits, misshapen when it does not have the structure
of a flow, and judged by the rules otherwise.  The `Outcome` says how far a document came and holds what is
needed to report it.
-/

namespace FlowCheck

/-- How far a document came. -/
inductive Outcome where
  | rejected (error : DocumentError)
  /-- The structure is wrong. -/
  | misshapen (findings : List Finding)
  | judged (flow : Flow) (settings : RuleSettings)

namespace Outcome

def ofFlow (config : ValidatorConfig) (flow : Flow) : Outcome :=
  if (Structure.shape flow).isEmpty then judged flow config.rules else misshapen (Structure.shape flow)

def ofTree (config : ValidatorConfig) (tree : Value) : Outcome :=
  match config.limits.checkTree tree with
  | .error error => rejected error
  | .ok () =>
    match Structure.check tree with
    | .error findings => misshapen findings
    | .ok flow => ofFlow config flow

def ofText (config : ValidatorConfig) (format : InputFormat) (text : String) : Outcome :=
  match Reading.tree config.limits format text with
  | .error error => rejected error
  | .ok tree => ofTree config tree

def findings : Outcome → List Finding
  | rejected error => error.findings
  | misshapen findings => findings
  | judged flow settings => Rule.run flow settings

def result (outcome : Outcome) : ValidationResult :=
  .ofFindings outcome.findings

end Outcome

/-- The result for a flow. -/
def validateFlow (config : ValidatorConfig) (flow : Flow) : ValidationResult :=
  (Outcome.ofFlow config flow).result

/-- The result for a tree. -/
def validate (config : ValidatorConfig) (tree : Value) : ValidationResult :=
  (Outcome.ofTree config tree).result

/-- The result for a text. -/
def validateText (config : ValidatorConfig) (format : InputFormat) (text : String) : ValidationResult :=
  (Outcome.ofText config format text).result

end FlowCheck
