import FlowCheck.Proofs.Graph.Reachability
import FlowCheck.Proofs.Outcomes
import FlowCheck.Proofs.Structure.Distinct

/-!
# Nothing is reported twice

Each rule reports under codes of its own, in one section of a document (`Rule.codes`, `Rule.sectionName`); only
the rules on triggers and on transports share a code, that for the quality of service of MQTT, and they look at
different sections (`Rule.pairwise_separate`).  Inside a rule no two findings are alike either
(`Rule.spread_check`): they have different codes, or are on different elements of a list, or at different fields
of one mapping.  Two cycles are told apart by their first members (`Graph.pairwise_head_components`).

So no two findings of a result are alike, whether the rules made them or the structure is wrong
(`nothing_is_reported_twice`).
-/

namespace FlowCheck

namespace Rules

variable {path : Path} {field : String} {code : Code}

/-! ### Checks that several rules share -/

theorem spread_requireText {message text : String} :
    Spread [code] [path] (requireText path field code message text) :=
  spread_when.of_field

theorem spread_requirePositive {zero : Bool} : Spread [code] [path] (requirePositive path field code zero) :=
  spread_when.of_field

theorem spread_requireSome {message : String} {texts : List String} :
    Spread [code] [path] (requireSome path field code message texts) :=
  spread_when.of_field

theorem spread_requireQos {qos : UInt32} : Spread [.mqttQosInvalid] [path] (requireQos path qos) :=
  spread_when.of_field

theorem spread_requireJdbc {url : String} : Spread [code] [path] (requireJdbc path code url) :=
  spread_when.of_field

theorem spread_unitRate {what : String} {rate : Double} : Spread [code] [path] (unitRate path field code what rate) :=
  spread_when.of_field

end Rules

/-! ### Codes and sections -/

namespace Rule

/-- The codes under which a rule reports. -/
def codes : Rule → List Code
  | metadata => [.metadataNameMissing, .metadataVersionInvalid, .ownersMissing, .ownerEmailInvalid,
      .complianceDataRetentionMissing, .hipaaRbacRequired]
  | triggers => [.httpApiKeyMissing, .httpRateLimitInvalid, .scheduleCronInvalid, .scheduleDateRangeInvalid,
      .kafkaBootstrapServersMissing, .mqttQosInvalid, .sftpAuthMissing, .jdbcUrlInvalid, .fileWatchEventsMissing]
  | steps => [.connectorRefMissing, .connectorOperationMissing, .connectorTimeoutInvalid, .mapExpressionMissing,
      .scriptCodeMissing, .scriptTimeoutInvalid, .enrichSourceMissing, .enrichKeyMissing, .branchConditionsMissing,
      .branchConditionMissing, .branchTargetMissing, .retryMaxAttemptsInvalid, .dlqReasonMissing, .throttleRateInvalid,
      .throttleBurstInvalid, .checkpointNameMissing, .circuitBreakerThresholdInvalid,
      .circuitBreakerRecoveryTimeoutInvalid]
  | transports => [.restUrlMissing, .restTimeoutInvalid, .soapUrlMissing, .soapActionMissing, .graphqlUrlMissing,
      .graphqlQueryMissing, .jdbcTransportUrlInvalid, .jdbcQueryMissing, .kafkaTopicMissing,
      .kafkaTransportBootstrapServersMissing, .mqttTopicMissing, .mqttBrokerMissing, .mqttQosInvalid, .sftpHostMissing,
      .sftpPathMissing, .fsPathMissing, .customTransportNameMissing]
  | policies => [.qosTimeoutInvalid, .idempotencyKeyMissing, .idempotencyTtlInvalid, .mtlsCertPathMissing,
      .mtlsKeyPathMissing, .opaPolicyRefMissing, .secretsVaultPathsMissing, .secretsRefreshIntervalInvalid]
  | duplicateStepIds => [.stepIdMissing, .duplicateStepId]
  | stepReferences => [.invalidNextStepReference, .invalidErrorStepReference, .invalidBranchTargetReference]
  | selfReference => [.stepSelfReference]
  | cycles => [.stepGraphCycle]
  | unreachableSteps => [.unreachableStep]
  | observability => [.observabilitySampleRateInvalid, .observabilityPayloadSampleRateInvalid,
      .observabilityPayloadMaxSizeInvalid]

/-- The section of a document that a rule looks at. -/
def sectionName : Rule → String
  | metadata => "metadata"
  | triggers => "triggers"
  | observability => "observability"
  | _ => "steps"

/-- The path of the section. -/
def sectionPath (rule : Rule) : Path :=
  .mk rule.sectionName []

/-- Two rules have different codes, or look at different sections. -/
def Separate (a b : Rule) : Prop :=
  (∀ code ∈ a.codes, code ∉ b.codes) ∨ Diverge a.sectionName b.sectionName

instance (a b : Rule) : Decidable (Separate a b) :=
  inferInstanceAs (Decidable (_ ∨ _))

theorem pairwise_separate : all.Pairwise Separate := by
  decide

end Rule

/-! ### What each rule reports -/

namespace Rules

variable {path : Path}

theorem spread_metadata (m : Metadata) : Spread Rule.metadata.codes [Rule.metadata.sectionPath] (metadata m) := by
  have hversion : Spread [.metadataVersionInvalid] [.mk "metadata" []] (version m.version) := by
    unfold version
    split
    · exact spread_nil
    · exact (spread_singleton (List.mem_singleton_self _)).of_field
  have howners : Spread [.ownerEmailInvalid] [.mk "metadata" []] (m.owners.mapIdx owner).flatten :=
    (spread_flatten_mapIdx fun i hi => spread_when.of_field).of_field
  exact ((((spread_requireText.append_codes hversion (by decide)).append_codes spread_when.of_field
    (by decide)).append_codes howners (by decide)).append_codes spread_when.of_field.of_field
    (by decide)).append_codes spread_when.of_field.of_field (by decide)

theorem spread_trigger (t : Trigger) : Spread Rule.triggers.codes [path] (trigger path t) := by
  have hdates : ∀ start finish, Spread [.scheduleDateRangeInvalid] [path] (dateRange path start finish) := by
    intro start finish
    unfold dateRange
    split
    · exact spread_when.of_field
    · exact spread_nil
  cases t with
  | http t =>
    exact (spread_when.of_field.of_field.append_codes spread_when.of_field.of_field (by decide)).of_subset (by decide)
  | schedule t => exact (spread_when.of_field.append_codes (hdates _ _) (by decide)).of_subset (by decide)
  | kafka t => exact spread_requireSome.of_subset (by decide)
  | mqtt t => exact spread_requireQos.of_subset (by decide)
  | sftp t => exact spread_when.of_subset (by decide)
  | jdbc t => exact spread_requireJdbc.of_subset (by decide)
  | fileWatch t => exact spread_when.of_field.of_subset (by decide)

theorem spread_branchCondition (c : BranchCondition) :
    Spread [.branchConditionMissing, .branchTargetMissing] [path] (branchCondition path c) :=
  spread_requireText.append_codes spread_requireText (by decide)

theorem spread_stepKind (k : StepKind) : Spread Rule.steps.codes [path] (stepKind path k) := by
  cases k with
  | connector s =>
    exact ((spread_requireText.append_codes spread_requireText (by decide)).append_codes spread_requirePositive
      (by decide)).of_subset (by decide)
  | map s => exact spread_requireText.of_subset (by decide)
  | script s => exact (spread_requireText.append_codes spread_requirePositive (by decide)).of_subset (by decide)
  | enrich s => exact (spread_requireText.append_codes spread_requireText (by decide)).of_subset (by decide)
  | branch s =>
    have hconditions : Spread [.branchConditionMissing, .branchTargetMissing] [path.field "conditions"]
        (s.conditions.mapIdx fun i c => branchCondition ((path.field "conditions").index i) c).flatten :=
      spread_flatten_mapIdx fun i hi => spread_branchCondition s.conditions[i]
    exact (spread_when.of_field.append_codes hconditions.of_field (by decide)).of_subset (by decide)
  | retry s => exact spread_requirePositive.of_subset (by decide)
  | dlq s => exact spread_requireText.of_subset (by decide)
  | throttle s => exact (spread_when.of_field.append_codes spread_requirePositive (by decide)).of_subset (by decide)
  | checkpoint s => exact spread_requireText.of_subset (by decide)
  | circuitBreaker s =>
    exact (spread_requirePositive.append_codes spread_requirePositive (by decide)).of_subset (by decide)

theorem spread_transport (t : Transport) : Spread Rule.transports.codes [path] (transport path t) := by
  cases t with
  | rest t => exact (spread_requireText.append_codes spread_requirePositive (by decide)).of_subset (by decide)
  | soap t | graphQl t | sftp t =>
    exact (spread_requireText.append_codes spread_requireText (by decide)).of_subset (by decide)
  | jdbc t => exact (spread_requireJdbc.append_codes spread_requireText (by decide)).of_subset (by decide)
  | kafka t => exact (spread_requireText.append_codes spread_requireSome (by decide)).of_subset (by decide)
  | mqtt t =>
    exact ((spread_requireText.append_codes spread_requireText (by decide)).append_codes spread_requireQos
      (by decide)).of_subset (by decide)
  | fs t | custom t => exact spread_requireText.of_subset (by decide)

theorem spread_policy (p : Policy) : Spread Rule.policies.codes [path] (policy path p) := by
  cases p with
  | qos p => exact spread_requirePositive.of_subset (by decide)
  | idempotency p => exact (spread_requireText.append_codes spread_requirePositive (by decide)).of_subset (by decide)
  | mtls p => exact (spread_requireText.append_codes spread_requireText (by decide)).of_subset (by decide)
  | opa p => exact spread_requireText.of_subset (by decide)
  | secrets p => exact (spread_requireSome.append_codes spread_requirePositive (by decide)).of_subset (by decide)

theorem spread_stepId (steps : List Step) (i : Nat) (step : Step) :
    Spread Rule.duplicateStepIds.codes [stepPath i] (stepId steps i step) := by
  unfold stepId
  split
  · exact (spread_singleton (by decide)).of_field
  · split
    · exact spread_when.of_field.of_subset (by decide)
    · exact spread_nil

section Targets

variable {name : String} {code : Code} {severity : Severity}

/-- Findings on the targets in a list, at most one on each. -/
theorem spread_targets {reason : String → Bool} {message : String → String} {targets : List String} :
    Spread [code] ([name].map path.field) (targets.mapIdx fun j target => Finding.when (reason target)
      ⟨some ((path.field name).index j).text, message target, code.name, severity⟩).flatten :=
  spread_flatten_mapIdx fun _ _ => spread_when

theorem spread_target {reason : String → Bool} {message : String → String} {target? : Option String} :
    Spread [code] ([name].map path.field) (target?.toList.map fun target => Finding.when (reason target)
      ⟨some (path.field name).text, message target, code.name, severity⟩).flatten :=
  spread_flatten_option fun _ => spread_when

/-- Findings on the targets of a branch, at most one on each. -/
theorem spread_branchRoutes {reason : Path × String → Bool} {message : Path × String → String} {action : StepKind} :
    Spread [code] (["step"].map path.field) ((branchRoutes path action).map fun route =>
      Finding.when (reason route) ⟨some route.1.text, message route, code.name, severity⟩).flatten := by
  cases action with
  | branch s =>
    have hconditions : Spread [code] (["conditions"].map (path.field "step").field)
        ((s.conditions.mapIdx fun i c =>
          ((((path.field "step").field "conditions").index i).field "target", c.target)).map fun route =>
            Finding.when (reason route) ⟨some route.1.text, message route, code.name, severity⟩).flatten := by
      rw [map_mapIdx]
      exact spread_flatten_mapIdx fun i hi => spread_when.of_field
    have hfallback : Spread [code] (["default"].map (path.field "step").field)
        ((s.fallback.toList.map fun target => ((path.field "step").field "default", target)).map fun route =>
            Finding.when (reason route) ⟨some route.1.text, message route, code.name, severity⟩).flatten := by
      rw [List.map_map]
      exact spread_flatten_option fun target => spread_when
    rw [branchRoutes, List.map_append, List.flatten_append]
    exact (hconditions.append_fields hfallback (by decide)).of_fields
  | _ => exact spread_nil

end Targets

theorem spread_references (steps : List Step) (i : Nat) (step : Step) :
    Spread Rule.stepReferences.codes [stepPath i] (references steps i step) :=
  (spread_targets.of_fields.append_codes spread_target.of_fields (by decide)).append_codes
    spread_branchRoutes.of_fields (by decide)

theorem spread_selfReferences (severity : Severity) (i : Nat) (step : Step) :
    Spread Rule.selfReference.codes [stepPath i] (selfReferences severity i step) := by
  unfold selfReferences
  split
  · exact spread_nil
  · refine Spread.of_fields (.append_fields (.append_fields spread_targets spread_target ?_) spread_branchRoutes ?_)
    · decide
    · decide

theorem spread_cycles (flow : Flow) (settings : RuleSettings) :
    Spread Rule.cycles.codes [Rule.cycles.sectionPath] (cycles flow settings) := by
  unfold cycles
  split
  · exact spread_nil
  · refine ⟨List.forall_mem_map.2 fun members _ => ⟨_, List.mem_singleton_self _, rfl⟩,
      List.forall_mem_map.2 fun members _ => ⟨_, List.mem_singleton_self _, _, rfl, ?_⟩, List.pairwise_map.2 ?_⟩
    · exact (Path.begins_self _).of_index
    · refine Graph.pairwise_head_components.imp fun {first second} hne hpath => False.elim ?_
      have htext : (stepPath (first.headD 0)).text = (stepPath (second.headD 0)).text := Option.some.inj hpath
      have hapart := Path.apart_index hne (stepPath (first.headD 0)).text (Path.begins_self _)
      exact hapart (htext ▸ Path.begins_self (stepPath (second.headD 0)))

theorem spread_unreachableSteps (flow : Flow) (settings : RuleSettings) :
    Spread Rule.unreachableSteps.codes [Rule.unreachableSteps.sectionPath] (unreachableSteps flow settings) := by
  unfold unreachableSteps
  split
  · exact spread_flatten_mapIdx fun i hi => spread_when
  · exact spread_nil

theorem spread_payloadSampling (sampling : PayloadSampling) :
    Spread [.observabilityPayloadSampleRateInvalid, .observabilityPayloadMaxSizeInvalid] [path]
      (payloadSampling path sampling) :=
  spread_unitRate.append_codes spread_when.of_field (by decide)

theorem spread_observability (o : Observability) :
    Spread Rule.observability.codes [Rule.observability.sectionPath] (observability o) :=
  spread_unitRate.append_codes (spread_flatten_option spread_payloadSampling).of_field (by decide)

end Rules

/-! ### Results -/

variable {flow : Flow} {settings : RuleSettings}

/-- A rule reports under its codes in its section, and nothing twice. -/
theorem Rule.spread_check (rule : Rule) : Spread rule.codes [rule.sectionPath] (rule.check flow settings) := by
  cases rule with
  | metadata => exact Rules.spread_metadata flow.metadata
  | triggers => exact spread_flatten_mapIdx fun i hi => Rules.spread_trigger flow.triggers[i]
  | steps => exact spread_flatten_mapIdx fun i hi => (Rules.spread_stepKind flow.steps[i].action).of_field
  | transports =>
    exact spread_flatten_mapIdx fun i hi => (spread_flatten_option Rules.spread_transport).of_field
  | policies =>
    exact spread_flatten_mapIdx fun i hi =>
      (spread_flatten_mapIdx fun j hj => Rules.spread_policy flow.steps[i].policies[j]).of_field
  | duplicateStepIds => exact spread_flatten_mapIdx fun i hi => Rules.spread_stepId flow.steps i flow.steps[i]
  | stepReferences => exact spread_flatten_mapIdx fun i hi => Rules.spread_references flow.steps i flow.steps[i]
  | selfReference =>
    rw [check, Rules.selfReference]
    split
    · exact spread_nil
    · exact spread_flatten_mapIdx fun i hi => Rules.spread_selfReferences _ i flow.steps[i]
  | cycles => exact Rules.spread_cycles flow settings
  | unreachableSteps => exact Rules.spread_unreachableSteps flow settings
  | observability => exact spread_flatten_option Rules.spread_observability

theorem Rule.distinct_run : Distinct (Rule.run flow settings) := by
  refine List.Pairwise.filter _ (List.pairwise_flatMap.2 ⟨fun rule _ => rule.spread_check.distinct, ?_⟩)
  refine pairwise_separate.imp fun {rule other} hseparate => rule.spread_check.differs other.spread_check ?_
  refine hseparate.imp_right fun hdiverge => ?_
  exact List.forall_mem_singleton.2 (List.forall_mem_singleton.2 (Path.apart_section hdiverge))

theorem distinct_reported {limits : InputLimits} {tree : Value} :
    Distinct (reported settings (Reading.flowOfTree limits tree)) := by
  cases hread : Reading.flowOfTree limits tree with
  | ok flow => exact Rule.distinct_run
  | error error =>
    rcases Reading.flowOfTree_eq_error.1 hread with hlimits | ⟨-, findings, hcheck, rfl⟩
    · obtain ⟨message, rfl⟩ := exists_limitExceeded_of_toResult hlimits
      exact List.pairwise_singleton _ _
    · have hdistinct := Structure.distinct_findings tree
      rw [Structure.findings, hcheck] at hdistinct
      exact hdistinct

/-- No two findings of a result have the same place and the same code, and no two findings on the structure of a
document have the same place. -/
theorem nothing_is_reported_twice (config : ValidatorConfig) :
    (∀ tree, Distinct (validate config tree).findings) ∧
      (∀ format text, Distinct (validateText config format text).findings) ∧
      ∀ tree, ((Structure.findings tree).map (·.path)).Nodup := by
  refine ⟨fun tree => ?_, fun format text => ?_, Structure.nodup_paths⟩
  · rw [validate_eq_reported]
    exact distinct_ofFindings distinct_reported
  · rw [validateText_eq_reported]
    refine distinct_ofFindings ?_
    rcases Reading.tree_cases config.limits format text with ⟨message, hread⟩ | ⟨message, hread⟩ | ⟨tree, hread, -⟩
    · rw [Reading.flow_eq_error_of_tree hread]
      exact List.pairwise_singleton _ _
    · rw [Reading.flow_eq_error_of_tree hread]
      exact List.pairwise_singleton _ _
    · rw [Reading.flow_eq_flowOfTree hread]
      exact distinct_reported

end FlowCheck
