import FlowCheck.Logging.Event
import FlowCheck.Validation

/-!
# Events of validation

The stages of a validation that were reached show in its events.
-/

namespace FlowCheck

open Logging (Event)

namespace Outcome

private def validator : String := "flowdsl::core::flow::validator"

private def registry : String := "flowdsl::core::flow::rules"

/-- The end of the structural stage. -/
private def structureEvent (findings : Nat) : Event where
  level := .debug
  target := validator
  message := "structural validation finished"
  fields := [("phase", Text.quoted "structure"), ("findings", toString findings)]

/-- The end of a rule. -/
private def ruleEvent (flow : Flow) (settings : RuleSettings) (rule : Rule) : Event where
  level := .trace
  target := registry
  message := "rule finished"
  fields := [("rule", Text.quoted rule.name), ("count", toString (rule.check flow settings).length)]

/-- The end of the semantic stage. -/
private def semanticEvent (flow : Flow) (findings : Nat) : Event where
  level := .debug
  target := validator
  message := "semantic validation finished"
  fields := [("phase", Text.quoted "semantic"), ("flow", flow.metadata.name), ("findings", toString findings)]

private def rejectionEvent (error : DocumentError) : Event where
  level := .debug
  target := validator
  message := "document rejected before structural validation"
  fields := [("error", error.text)]

private def resultEvent (result : ValidationResult) : Event where
  level := .debug
  target := validator
  message := "validation complete"
  fields := [("valid", toString result.valid), ("errors", toString result.errors.length),
    ("warnings", toString result.warnings.length)]

/-- The events of a validation, up to its result. -/
def events (outcome : Outcome) : List Event :=
  let stages := match outcome with
    | rejected error => [rejectionEvent error]
    | misshapen findings => [structureEvent findings.length]
    | judged flow settings =>
      structureEvent 0 :: (Rule.all.map (ruleEvent flow settings) ++
        [semanticEvent flow (Rule.run flow settings).length])
  stages ++ [resultEvent outcome.result]

end Outcome

end FlowCheck
