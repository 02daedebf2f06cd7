import FlowCheck.Proofs.Findings
import FlowCheck.Rules.Registry

/-!
# The severities of the rules

Three rules report at a level of choice.  Every finding of the other rules has a code of the catalogue that is neither
reserved nor at a level of choice, and the severity that the catalogue gives to this code (`Rule.standard_of_check`).
-/

namespace FlowCheck

/-! ### Codes -/

/-- The severity of a code is a matter of settings. -/
def Code.isGraded : Code → Bool
  | .stepGraphCycle | .stepSelfReference | .unreachableStep => true
  | _ => false

/-- The severity of findings with the code, if rules report them and no setting changes it. -/
def Code.standardSeverity? (code : Code) : Option Severity :=
  if code.reserved || code.isGraded then none else code.severity?

theorem Code.standardSeverity?_eq_some {code : Code} {severity : Severity} :
    code.standardSeverity? = some severity ↔
      (code.reserved = false ∧ code.isGraded = false) ∧ code.severity? = some severity := by
  unfold standardSeverity?
  cases code.reserved <;> cases code.isGraded <;> simp

/-- The finding has a code of the rules, at the severity that no setting changes. -/
def Finding.Standard (finding : Finding) : Prop :=
  ∃ code : Code, finding.code = code.name ∧ code.standardSeverity? = some finding.severity

section Findings

variable {path : Path} {code : Code} {message : String}

theorem standard_error (h : code.standardSeverity? = some .error) : (Finding.error path code message).Standard :=
  ⟨code, rfl, h⟩

theorem standard_warning (h : code.standardSeverity? = some .warning) :
    (Finding.warning path code message).Standard :=
  ⟨code, rfl, h⟩

theorem standard_when_error {reason : Bool} (h : code.standardSeverity? = some .error) :
    ∀ finding ∈ Finding.when reason (.error path code message), finding.Standard :=
  forall_mem_when.2 fun _ => standard_error h

end Findings

/-! ### The rules that report at one severity -/

namespace Rules

theorem standard_metadata (m : Metadata) : ∀ finding ∈ metadata m, finding.Standard := by
  have howner : ∀ i o, ∀ finding ∈ owner i o, finding.Standard := fun i o =>
    forall_mem_when.2 fun _ => standard_warning rfl
  have hversion : ∀ text, ∀ finding ∈ version text, finding.Standard := by
    intro text
    unfold version
    split
    · exact fun _ h => absurd h List.not_mem_nil
    · exact List.forall_mem_singleton.2 (standard_error rfl)
  simp only [metadata, List.forall_mem_append]
  refine ⟨⟨⟨⟨⟨standard_when_error rfl, hversion _⟩, ?_⟩, ?_⟩, ?_⟩, standard_when_error rfl⟩
  · exact forall_mem_when.2 fun _ => standard_warning rfl
  · exact forall_mem_flatten_mapIdx.2 fun i hi => howner i _
  · exact forall_mem_when.2 fun _ => standard_warning rfl

theorem standard_trigger (path : Path) (t : Trigger) : ∀ finding ∈ trigger path t, finding.Standard := by
  have hdates : ∀ start finish, ∀ finding ∈ dateRange path start finish, finding.Standard := by
    intro start finish
    unfold dateRange
    split
    · exact standard_when_error rfl
    · exact fun _ h => absurd h List.not_mem_nil
  cases t with
  | http t =>
    simp only [trigger, List.forall_mem_append]
    exact ⟨standard_when_error rfl, standard_when_error rfl⟩
  | schedule t =>
    simp only [trigger, List.forall_mem_append]
    exact ⟨standard_when_error rfl, hdates _ _⟩
  | kafka t | mqtt t | sftp t | jdbc t | fileWatch t => exact standard_when_error rfl

theorem standard_stepKind (path : Path) (k : StepKind) : ∀ finding ∈ stepKind path k, finding.Standard := by
  cases k with
  | connector s =>
    simp only [stepKind, List.forall_mem_append]
    exact ⟨⟨standard_when_error rfl, standard_when_error rfl⟩, standard_when_error rfl⟩
  | script s | enrich s | throttle s | circuitBreaker s =>
    simp only [stepKind, List.forall_mem_append]
    exact ⟨standard_when_error rfl, standard_when_error rfl⟩
  | branch s =>
    simp only [stepKind, branchCondition, List.forall_mem_append, forall_mem_flatten_mapIdx]
    exact ⟨standard_when_error rfl, fun i hi => ⟨standard_when_error rfl, standard_when_error rfl⟩⟩
  | map s | retry s | dlq s | checkpoint s => exact standard_when_error rfl

theorem standard_transport (path : Path) (t : Transport) : ∀ finding ∈ transport path t, finding.Standard := by
  cases t with
  | rest t | soap t | graphQl t | jdbc t | kafka t | sftp t =>
    simp only [transport, List.forall_mem_append]
    exact ⟨standard_when_error rfl, standard_when_error rfl⟩
  | mqtt t =>
    simp only [transport, List.forall_mem_append]
    exact ⟨⟨standard_when_error rfl, standard_when_error rfl⟩, standard_when_error rfl⟩
  | fs t | custom t => exact standard_when_error rfl

theorem standard_policy (path : Path) (p : Policy) : ∀ finding ∈ policy path p, finding.Standard := by
  cases p with
  | idempotency p | mtls p | secrets p =>
    simp only [policy, List.forall_mem_append]
    exact ⟨standard_when_error rfl, standard_when_error rfl⟩
  | qos p | opa p => exact standard_when_error rfl

theorem standard_stepId (steps : List Step) (i : Nat) (step : Step) :
    ∀ finding ∈ stepId steps i step, finding.Standard := by
  unfold stepId
  split
  · exact List.forall_mem_singleton.2 (standard_error rfl)
  · split
    · exact standard_when_error rfl
    · exact fun _ h => absurd h List.not_mem_nil

theorem standard_references (steps : List Step) (i : Nat) (step : Step) :
    ∀ finding ∈ references steps i step, finding.Standard := by
  simp only [references, List.forall_mem_append, forall_mem_flatten_map, forall_mem_flatten_mapIdx]
  exact ⟨⟨fun j hj => standard_when_error rfl, fun _ _ => standard_when_error rfl⟩,
    fun _ _ => standard_when_error rfl⟩

theorem standard_observability (o : Observability) : ∀ finding ∈ observability o, finding.Standard := by
  simp only [observability, payloadSampling, List.forall_mem_append, forall_mem_flatten_map]
  exact ⟨standard_when_error rfl, fun _ _ => ⟨standard_when_error rfl, standard_when_error rfl⟩⟩

end Rules

namespace Rule

/-- The code of a rule that reports at a level of choice. -/
def gradedCode? : Rule → Option Code
  | selfReference => some .stepSelfReference
  | cycles => some .stepGraphCycle
  | unreachableSteps => some .unreachableStep
  | _ => none

variable {rule : Rule} {flow : Flow} {settings : RuleSettings}

theorem not_reserved_of_gradedCode? {code : Code} (h : rule.gradedCode? = some code) : code.reserved = false := by
  cases rule with
  | selfReference | cycles | unreachableSteps => cases h; rfl
  | _ => cases h

/-- A rule that does not report at a level of choice reports codes of the catalogue at their severity. -/
theorem standard_of_check (h : rule.gradedCode? = none) : ∀ finding ∈ rule.check flow settings, finding.Standard := by
  cases rule with
  | metadata => exact Rules.standard_metadata flow.metadata
  | triggers => exact forall_mem_flatten_mapIdx.2 fun i hi => Rules.standard_trigger _ _
  | steps => exact forall_mem_flatten_mapIdx.2 fun i hi => Rules.standard_stepKind _ _
  | transports =>
    exact forall_mem_flatten_mapIdx.2 fun i hi => forall_mem_flatten_map.2 fun _ _ => Rules.standard_transport _ _
  | policies =>
    exact forall_mem_flatten_mapIdx.2 fun i hi => forall_mem_flatten_mapIdx.2 fun j hj => Rules.standard_policy _ _
  | duplicateStepIds => exact forall_mem_flatten_mapIdx.2 fun i hi => Rules.standard_stepId _ _ _
  | stepReferences => exact forall_mem_flatten_mapIdx.2 fun i hi => Rules.standard_references _ _ _
  | observability => exact forall_mem_flatten_map.2 fun o _ => Rules.standard_observability o
  | selfReference | cycles | unreachableSteps => cases h

/-- Only rules that report at a level of choice look at the settings. -/
theorem check_eq_of_not_graded (h : rule.gradedCode? = none) (other : RuleSettings) :
    rule.check flow settings = rule.check flow other := by
  cases rule with
  | selfReference | cycles | unreachableSteps => cases h
  | _ => rfl

end Rule

end FlowCheck
