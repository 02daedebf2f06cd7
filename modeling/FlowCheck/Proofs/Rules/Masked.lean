import FlowCheck.Proofs.Graph.Renaming

/-!
# Expressions, secrets and free data do not matter

`Flow.masked` hides what only the engine that runs a flow may look at.  Of an expression, a code or a lookup it
keeps whether it is blank, of a password or a key whether there is one that is not blank; of configurations,
bindings, headers and descriptions it keeps nothing.

* Every rule finds the same in the masked flow, messages included (`Rule.check_masked`): a check of a hidden text asks
  for no more than what the mask keeps, and the mask leaves the step graph alone (`renames_masked`).
* So flows that differ only in what is hidden have the same result (`validateFlow_eq_of_masked_eq`): no report
  can leak a secret.
-/

namespace FlowCheck

/-! ### Masked texts -/

/-- Of a text only whether it is blank. -/
def Text.masked (s : String) : String :=
  if Text.blank s then "" else "*"

@[simp] theorem Text.blank_masked (s : String) : Text.blank (Text.masked s) = Text.blank s := by
  unfold masked
  split
  · rename_i h
    rw [h]
    rfl
  · rename_i h
    rw [Bool.eq_false_iff.2 h]
    rfl

theorem Text.masked_eq_iff {s t : String} : Text.masked s = Text.masked t ↔ Text.blank s = Text.blank t := by
  constructor
  · intro h
    rw [← Text.blank_masked s, h, Text.blank_masked]
  · intro h
    rw [masked, masked, h]

/-- Of a secret only whether there is one. -/
def Text.maskedSecret (secret : Option String) : Option String :=
  if Rules.hasText secret then some "*" else none

@[simp] theorem Text.hasText_maskedSecret (secret : Option String) :
    Rules.hasText (Text.maskedSecret secret) = Rules.hasText secret := by
  unfold maskedSecret
  split
  · rename_i h
    rw [h]
    rfl
  · rename_i h
    rw [Bool.eq_false_iff.2 h]
    rfl

theorem Text.maskedSecret_eq_iff {s t : Option String} :
    Text.maskedSecret s = Text.maskedSecret t ↔ Rules.hasText s = Rules.hasText t := by
  constructor
  · intro h
    rw [← Text.hasText_maskedSecret s, h, Text.hasText_maskedSecret]
  · intro h
    rw [maskedSecret, maskedSecret, h]

/-! ### Masked flows -/

def HttpAuth.masked (auth : HttpAuth) : HttpAuth :=
  { auth with key := Text.maskedSecret auth.key, header := none }

def Trigger.masked : Trigger → Trigger
  | .http t => .http { t with auth := t.auth.map .masked }
  | .sftp t => .sftp { t with password := Text.maskedSecret t.password, privateKey := Text.maskedSecret t.privateKey }
  | t => t

def BranchCondition.masked (condition : BranchCondition) : BranchCondition :=
  { condition with condition := Text.masked condition.condition }

def StepKind.masked : StepKind → StepKind
  | .connector s => .connector { s with config := none }
  | .map s => .map { s with expression := Text.masked s.expression }
  | .script s => .script { s with code := Text.masked s.code }
  | .enrich s => .enrich { s with source := Text.masked s.source, key := Text.masked s.key }
  | .branch s => .branch { s with conditions := s.conditions.map .masked }
  | kind => kind

def Transport.masked : Transport → Transport
  | .rest t => .rest { t with headers := [] }
  | .graphQl t => .graphQl { t with bindings := none }
  | .custom t => .custom { t with config := none }
  | t => t

def Policy.masked : Policy → Policy
  | .idempotency p => .idempotency { p with keyExpression := Text.masked p.keyExpression }
  | p => p

def Step.masked (step : Step) : Step :=
  { step with
    description := none
    action := step.action.masked
    transport := step.transport.map .masked
    policies := step.policies.map .masked }

/-- The flow without the expressions, secrets and free data that validation has no business with. -/
def Flow.masked (flow : Flow) : Flow :=
  { flow with
    metadata := { flow.metadata with description := none }
    triggers := flow.triggers.map .masked
    steps := flow.steps.map .masked }

/-! ### Rules on one part -/

namespace Rules

variable (path : Path)

theorem requireText_masked (field : String) (code : Code) (message text : String) :
    requireText path field code message (Text.masked text) = requireText path field code message text := by
  rw [requireText, requireText, Text.blank_masked]

theorem trigger_masked (t : Trigger) : trigger path t.masked = trigger path t := by
  cases t with
  | http t =>
    simp only [Trigger.masked, trigger, Option.any_map]
    congr 3
    funext auth
    simp only [HttpAuth.masked, Text.hasText_maskedSecret]
  | sftp t => simp only [Trigger.masked, trigger, Text.hasText_maskedSecret]
  | _ => rfl

theorem stepKind_masked (kind : StepKind) : stepKind path kind.masked = stepKind path kind := by
  cases kind with
  | branch s =>
    simp only [StepKind.masked, stepKind, List.isEmpty_map, mapIdx_map, branchCondition, BranchCondition.masked,
      requireText_masked]
  | map s | script s | enrich s => simp only [StepKind.masked, stepKind, requireText_masked]
  | _ => rfl

theorem transport_masked (t : Transport) : transport path t.masked = transport path t := by
  cases t <;> rfl

theorem policy_masked (p : Policy) : policy path p.masked = policy path p := by
  cases p with
  | idempotency p => simp only [Policy.masked, policy, requireText_masked]
  | _ => rfl

theorem branchRoutes_masked (kind : StepKind) : branchRoutes path kind.masked = branchRoutes path kind := by
  cases kind with
  | branch s => simp only [StepKind.masked, branchRoutes, mapIdx_map, BranchCondition.masked]
  | _ => rfl

end Rules

/-! ### Rules on the step graph -/

/-- The mask leaves the names of steps and the routes between them alone. -/
theorem renames_masked : Renames id Step.masked where
  injective := Function.injective_id
  blank _ := rfl
  id _ := rfl
  next _ := (List.map_id _).symm
  error step := (congrFun Option.map_id step.error).symm
  branchTargets step := by
    rw [List.map_id]
    cases haction : step.action with
    | branch s => simp only [Step.masked, haction, StepKind.masked, StepKind.branchTargets, List.map_map]; rfl
    | _ => simp only [Step.masked, haction]; rfl

namespace Rules

variable (steps : List Step) (i : Nat) (step : Step)

private theorem declared?_masked (id : String) : Graph.declared? (steps.map .masked) id = Graph.declared? steps id :=
  renames_masked.declared?_map steps id

theorem stepId_masked : stepId (steps.map .masked) i step.masked = stepId steps i step := by
  simp only [stepId, declared?_masked, Step.masked]

theorem references_masked : references (steps.map .masked) i step.masked = references steps i step := by
  simp only [references, declared?_masked, Step.masked, branchRoutes_masked]

theorem selfReferences_masked (severity : Severity) :
    selfReferences severity i step.masked = selfReferences severity i step := by
  simp only [selfReferences, Step.masked, branchRoutes_masked]

theorem cycle_masked (severity : Severity) : cycle (steps.map .masked) severity = cycle steps severity := by
  funext members
  have hid : ∀ j, ((steps.map Step.masked)[j]?).map Step.id = (steps[j]?).map Step.id := fun j => by
    rw [List.getElem?_map, Option.map_map]
    rfl
  simp only [cycle, hid]

theorem unreachableSteps_masked (flow : Flow) (settings : RuleSettings) :
    unreachableSteps flow.masked settings = unreachableSteps flow settings := by
  have hsteps : flow.masked.steps = flow.steps.map .masked := rfl
  have hunreachable : ∀ first severity,
      unreachable flow.masked (Step.masked first) severity = unreachable flow first severity := fun first severity => by
    simp only [unreachable, hsteps, renames_masked.reachableSteps_map, mapIdx_map, renames_masked.isShadowed_map]
    rfl
  unfold unreachableSteps
  rw [hsteps]
  cases settings.unreachableSteps.severity? with
  | none => rfl
  | some severity =>
    cases flow.steps with
    | nil => rfl
    | cons first rest => exact hunreachable first severity

end Rules

/-! ### All rules -/

/-- A rule finds the same in the masked flow. -/
theorem Rule.check_masked (rule : Rule) (flow : Flow) (settings : RuleSettings) :
    rule.check flow.masked settings = rule.check flow settings := by
  cases rule with
  | metadata | observability => rfl
  | triggers => simp only [check, Rules.triggers, Flow.masked, mapIdx_map, Rules.trigger_masked]
  | steps => simp only [check, Rules.steps, Flow.masked, mapIdx_map, Step.masked, Rules.stepKind_masked]
  | transports =>
    simp only [check, Rules.transports, Flow.masked, mapIdx_map, Step.masked, Option.toList_map, List.map_map,
      Function.comp_def, Rules.transport_masked]
  | policies => simp only [check, Rules.policies, Flow.masked, mapIdx_map, Step.masked, Rules.policy_masked]
  | duplicateStepIds => simp only [check, Rules.duplicateStepIds, Flow.masked, mapIdx_map, Rules.stepId_masked]
  | stepReferences => simp only [check, Rules.stepReferences, Flow.masked, mapIdx_map, Rules.references_masked]
  | selfReference => simp only [check, Rules.selfReference, Flow.masked, mapIdx_map, Rules.selfReferences_masked]
  | cycles => simp only [check, Rules.cycles, Flow.masked, renames_masked.cycles_map, Rules.cycle_masked]
  | unreachableSteps => exact Rules.unreachableSteps_masked flow settings

theorem Rule.run_masked (flow : Flow) (settings : RuleSettings) :
    Rule.run flow.masked settings = Rule.run flow settings := by
  simp only [Rule.run, Rule.check_masked]

theorem validateFlow_masked (config : ValidatorConfig) (flow : Flow) :
    validateFlow config flow.masked = validateFlow config flow := by
  have hshape : Structure.shape flow.masked = Structure.shape flow := by
    simp only [Structure.shape, Flow.masked, List.isEmpty_map]
  unfold validateFlow Outcome.ofFlow
  rw [hshape]
  split
  · exact congrArg ValidationResult.ofFindings (Rule.run_masked flow config.rules)
  · rfl

/-- Flows that differ only in what the mask hides have the same result, messages included. -/
theorem validateFlow_eq_of_masked_eq (config : ValidatorConfig) {flow other : Flow} (h : flow.masked = other.masked) :
    validateFlow config flow = validateFlow config other := by
  rw [← validateFlow_masked config flow, h, validateFlow_masked]

/-- A flow with a secret in a trigger, in a script and in a configuration. -/
def guarded (secret : String) : Flow where
  metadata := ⟨"f", "1.0.0", some secret, none, [], [], none, none⟩
  triggers := [.http ⟨"/", .post, some ⟨.apiKey, some secret, none⟩, none⟩]
  steps := [⟨"a", "A", none, .script ⟨secret, .python, some 0⟩, none, [], ["b"], none⟩,
    ⟨"b", "B", none, .connector ⟨"c", "o", some (.string secret), none⟩, none, [], ["c"], none⟩]
  observability := none

theorem validateFlow_eq_of_masked_eq_of_guarded :
    guarded "hunter2" ≠ guarded "swordfish" ∧ (guarded "hunter2").masked = (guarded "swordfish").masked ∧
      validateFlow {} (guarded "hunter2") = validateFlow {} (guarded "swordfish") ∧
      (validateFlow {} (guarded "hunter2")).errors.map (·.code) =
        ["SCRIPT_TIMEOUT_INVALID", "INVALID_NEXT_STEP_REFERENCE"] := by
  have hmasked : (guarded "hunter2").masked = (guarded "swordfish").masked := by decide
  refine ⟨by decide, hmasked, validateFlow_eq_of_masked_eq {} hmasked, ?_⟩
  have herrors : (validateFlow {} (guarded "hunter2")).errors =
      (Rule.run (guarded "hunter2") {}).filter (·.isBlocking) :=
    rfl
  rw [herrors, Rule.filter_isBlocking_run (by decide) (by decide)]
  decide +kernel

end FlowCheck
