import FlowCheck.Model.Flow
import FlowCheck.Rules.Basic

/-!
# Rules on what steps do
-/

namespace FlowCheck.Rules

def branchCondition (path : Path) (condition : BranchCondition) : List Finding :=
  requireText path "condition" .branchConditionMissing "branch condition expression must not be empty"
    condition.condition ++
  requireText path "target" .branchTargetMissing "branch condition must name a target step" condition.target

/-- The findings on the action of one step.  The rate of a throttle is compared only, since every rate that can be
read is a finite number (see `Double`); what is no number would have to be reported as well. -/
def stepKind (path : Path) : StepKind → List Finding
  | .connector s =>
    requireText path "connectorRef" .connectorRefMissing "connector step requires a connector reference"
      s.connectorRef ++
    requireText path "operation" .connectorOperationMissing "connector step requires an operation" s.operation ++
    requirePositive path "timeout" .connectorTimeoutInvalid (s.timeout == some 0)
  | .map s =>
    requireText path "expression" .mapExpressionMissing "map step requires a non-empty expression" s.expression
  | .script s =>
    requireText path "code" .scriptCodeMissing "script step requires non-empty code" s.code ++
    requirePositive path "timeout" .scriptTimeoutInvalid (s.timeout == some 0)
  | .enrich s =>
    requireText path "source" .enrichSourceMissing "enrich step requires a source" s.source ++
    requireText path "key" .enrichKeyMissing "enrich step requires a lookup key" s.key
  | .branch s =>
    Finding.when s.conditions.isEmpty
      (.error (path.field "conditions") .branchConditionsMissing "branch step requires at least one condition") ++
    (s.conditions.mapIdx fun i condition =>
      branchCondition ((path.field "conditions").index i) condition).flatten
  | .retry s =>
    requirePositive path "maxAttempts" .retryMaxAttemptsInvalid (s.maxAttempts == 0)
  | .dlq s =>
    requireText path "reason" .dlqReasonMissing "dlq step requires a reason" s.reason
  | .throttle s =>
    Finding.when (s.rate.le (.zero false))
      (.error (path.field "rate") .throttleRateInvalid
        ("throttle rate must be greater than 0, got " ++ DecimalStyle.plain.text s.rate)) ++
    requirePositive path "burst" .throttleBurstInvalid (s.burst == some 0)
  | .checkpoint s =>
    requireText path "name" .checkpointNameMissing "checkpoint step requires a name" s.name
  | .circuitBreaker s =>
    requirePositive path "failureThreshold" .circuitBreakerThresholdInvalid (s.failureThreshold == 0) ++
    requirePositive path "recoveryTimeout" .circuitBreakerRecoveryTimeoutInvalid (s.recoveryTimeout == 0)

/-- The findings on the actions of all steps. -/
def steps (flow : Flow) : List Finding :=
  (flow.steps.mapIdx fun i step => stepKind (((Path.mk "steps" []).index i).field "step") step.action).flatten

end FlowCheck.Rules
