import FlowCheck.Rules.Graph
import FlowCheck.Rules.Metadata
import FlowCheck.Rules.Observability
import FlowCheck.Rules.Policies
import FlowCheck.Rules.Steps
import FlowCheck.Rules.Transports
import FlowCheck.Rules.Triggers

/-!
# The rules

All rules in the order in which they report, and the run of all of them on a flow.
-/

namespace FlowCheck

/-- A check of flows that have the right structure. -/
inductive Rule where
  | metadata
  | triggers
  | steps
  | transports
  | policies
  | duplicateStepIds
  | stepReferences
  | selfReference
  | cycles
  | unreachableSteps
  | observability
  deriving DecidableEq

namespace Rule

def all : List Rule :=
  [metadata, triggers, steps, transports, policies, duplicateStepIds, stepReferences, selfReference, cycles,
    unreachableSteps, observability]

def name : Rule → String
  | metadata => "metadata"
  | triggers => "triggers"
  | steps => "steps"
  | transports => "transports"
  | policies => "policies"
  | duplicateStepIds => "duplicate-step-ids"
  | stepReferences => "step-references"
  | selfReference => "self-reference"
  | cycles => "cycles"
  | unreachableSteps => "unreachable-steps"
  | observability => "observability"

/-- The findings of one rule. -/
def check (rule : Rule) (flow : Flow) (settings : RuleSettings) : List Finding :=
  match rule with
  | metadata => Rules.metadata flow.metadata
  | triggers => Rules.triggers flow
  | steps => Rules.steps flow
  | transports => Rules.transports flow
  | policies => Rules.policies flow
  | duplicateStepIds => Rules.duplicateStepIds flow
  | stepReferences => Rules.stepReferences flow
  | selfReference => Rules.selfReference flow settings
  | cycles => Rules.cycles flow settings
  | unreachableSteps => Rules.unreachableSteps flow settings
  | observability => (flow.observability.toList.map Rules.observability).flatten

/-- The findings of all rules, less those with a suppressed code. -/
def run (flow : Flow) (settings : RuleSettings) : List Finding :=
  (all.flatMap (·.check flow settings)).filter fun finding => !settings.disabled.contains finding.code

end Rule

end FlowCheck
