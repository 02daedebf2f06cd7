import FlowCheck.Finding.Basic
import FlowCheck.Graph.Steps
import FlowCheck.Model.Flow
import FlowCheck.Settings.Rules

/-!
# Rules on the step graph

Identifiers are declared once, references lead to declared steps, no step routes to itself, no steps form a cycle, and
a run can reach every step.
-/

namespace FlowCheck.Rules

def stepPath (i : Nat) : Path :=
  (Path.mk "steps" []).index i

/-- The targets of a branch with their places, those of the conditions first. -/
def branchRoutes (path : Path) : StepKind → List (Path × String)
  | .branch s =>
    let path := path.field "step"
    (s.conditions.mapIdx fun i c => (((path.field "conditions").index i).field "target", c.target)) ++
      s.fallback.toList.map fun target => (path.field "default", target)
  | _ => []

/-! ## Identifiers -/

def stepId (steps : List Step) (i : Nat) (step : Step) : List Finding :=
  let path := (stepPath i).field "id"
  if Text.blank step.id then [.error path .stepIdMissing s!"step '{step.name}' has an empty id"]
  else
    match Graph.declared? steps step.id with
    | some first =>
      Finding.when (first != i)
        (.error path .duplicateStepId s!"duplicate step id '{step.id}' (first declared at steps[{first}])")
    | none => []

def duplicateStepIds (flow : Flow) : List Finding :=
  (flow.steps.mapIdx (stepId flow.steps)).flatten

/-! ## References -/

def references (steps : List Step) (i : Nat) (step : Step) : List Finding :=
  let unknown (target : String) : Bool := (Graph.declared? steps target).isNone
  (step.next.mapIdx fun j target =>
    Finding.when (unknown target)
      (.error (((stepPath i).field "next").index j) .invalidNextStepReference
        s!"step '{step.id}' routes to unknown step '{target}'")).flatten ++
  (step.error.toList.map fun target =>
    Finding.when (unknown target)
      (.error ((stepPath i).field "error") .invalidErrorStepReference
        s!"step '{step.id}' sends failures to unknown step '{target}'")).flatten ++
  ((branchRoutes (stepPath i) step.action).map fun (path, target) =>
    Finding.when (!Text.blank target && unknown target)
      (.error path .invalidBranchTargetReference
        s!"branch '{step.id}' targets unknown step '{target}'")).flatten

def stepReferences (flow : Flow) : List Finding :=
  (flow.steps.mapIdx (references flow.steps)).flatten

def selfReferences (severity : Severity) (i : Nat) (step : Step) : List Finding :=
  let report (path : Path) (target message : String) : List Finding :=
    Finding.when (target == step.id) ⟨some path.text, message, Code.stepSelfReference.name, severity⟩
  if Text.blank step.id then []
  else
    (step.next.mapIdx fun j target =>
      report (((stepPath i).field "next").index j) target s!"step '{step.id}' lists itself as a successor").flatten ++
    (step.error.toList.map fun target =>
      report ((stepPath i).field "error") target s!"step '{step.id}' handles its own failures").flatten ++
    ((branchRoutes (stepPath i) step.action).map fun (path, target) =>
      report path target s!"branch '{step.id}' targets itself").flatten

def selfReference (flow : Flow) (settings : RuleSettings) : List Finding :=
  match settings.selfReference.severity? with
  | none => []
  | some severity => (flow.steps.mapIdx (selfReferences severity)).flatten

/-! ## Cycles and reachability -/

def cycle (steps : List Step) (severity : Severity) (members : List Nat) : Finding :=
  let ids := members.filterMap fun i => (steps[i]?).map (·.id)
  ⟨some (stepPath (members.headD 0)).text, "steps " ++ ", ".intercalate ids ++ " form a cycle",
    Code.stepGraphCycle.name, severity⟩

def cycles (flow : Flow) (settings : RuleSettings) : List Finding :=
  match settings.cycles.severity? with
  | none => []
  | some severity => (Graph.cycles flow.steps).map (cycle flow.steps severity)

def unreachable (flow : Flow) (first : Step) (severity : Severity) : List Finding :=
  let reached := Graph.reachableSteps flow.steps
  (flow.steps.mapIdx fun i step =>
    Finding.when (!reached.contains i && !Graph.isShadowed flow.steps i step)
      ⟨some (stepPath i).text, s!"step '{step.id}' is unreachable from the first step '{first.id}'",
        Code.unreachableStep.name, severity⟩).flatten

def unreachableSteps (flow : Flow) (settings : RuleSettings) : List Finding :=
  match settings.unreachableSteps.severity?, flow.steps with
  | some severity, first :: _ => unreachable flow first severity
  | _, _ => []

end FlowCheck.Rules
