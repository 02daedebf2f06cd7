import FlowCheck.Proofs.Graph.Reachability
import FlowCheck.Proofs.Grammar.Paths
import FlowCheck.Proofs.Rules.Standard

/-!
# The rules point into the document

The path of every finding of a rule points into the tree that the flow is written as
(`findings_point_into_document`).  Each rule walks down the flow along its types, and so does its proof: it
carries where the structure that the rule looks at is shown (`Flow.Shows`), and a finding at one of its fields
needs no more than that the structure offers a field of this name (`Record.Offers`).  Only the roles are missed
in a structure that may be absent: without access control, their path leaves the tree at the metadata
(`points_roles`).
-/

namespace FlowCheck

variable {flow : Flow} {α : Type}

/-! ### Findings that point into a flow -/

/-- Each finding has the text of a path that points into the flow. -/
def Flow.Locates (flow : Flow) (findings : List Finding) : Prop :=
  ∀ finding ∈ findings, ∃ path : Path, finding.path = some path.text ∧ flow.Points path.trail

theorem locates_nil : flow.Locates [] :=
  fun _ h => absurd h List.not_mem_nil

theorem Flow.Locates.append {xs ys : List Finding} (hxs : flow.Locates xs) (hys : flow.Locates ys) :
    flow.Locates (xs ++ ys) :=
  List.forall_mem_append.2 ⟨hxs, hys⟩

theorem locates_singleton {path : Path} {message : String} {code : Code} {severity : Severity}
    (h : flow.Points path.trail) : flow.Locates [⟨some path.text, message, code.name, severity⟩] :=
  List.forall_mem_singleton.2 ⟨path, rfl, h⟩

theorem locates_when {reason : Bool} {path : Path} {message : String} {code : Code} {severity : Severity}
    (h : reason = true → flow.Points path.trail) :
    flow.Locates (Finding.when reason ⟨some path.text, message, code.name, severity⟩) :=
  forall_mem_when.2 fun hreason => ⟨path, rfl, h hreason⟩

theorem locates_flatten_mapIdx {as : List α} {f : Nat → α → List Finding}
    (h : ∀ i (hi : i < as.length), flow.Locates (f i as[i])) : flow.Locates (as.mapIdx f).flatten :=
  forall_mem_flatten_mapIdx.2 h

theorem locates_flatten_option {o : Option α} {f : α → List Finding} (h : ∀ a, o = some a → flow.Locates (f a)) :
    flow.Locates (o.toList.map f).flatten :=
  forall_mem_flatten_map.2 fun a ha => h a (Option.mem_toList.1 ha)

namespace Rules

/-! ### Checks that several rules share -/

section Fields

variable {path : Path} {record : Record α} {a : α} {field : String} {code : Code}

theorem locates_field {reason : Bool} {message : String} {severity : Severity}
    (h : flow.Shows path.trail record a) (hoffers : record.Offers field) :
    flow.Locates (Finding.when reason ⟨some (path.field field).text, message, code.name, severity⟩) :=
  locates_when fun _ => h.points_field hoffers

theorem locates_requireText {message text : String} (h : flow.Shows path.trail record a)
    (hoffers : record.Offers field) : flow.Locates (requireText path field code message text) :=
  locates_field h hoffers

theorem locates_requirePositive {zero : Bool} (h : flow.Shows path.trail record a) (hoffers : record.Offers field) :
    flow.Locates (requirePositive path field code zero) :=
  locates_field h hoffers

theorem locates_requireSome {message : String} {texts : List String} (h : flow.Shows path.trail record a)
    (hoffers : record.Offers field) : flow.Locates (requireSome path field code message texts) :=
  locates_field h hoffers

theorem locates_requireQos {qos : UInt32} (h : flow.Shows path.trail record a) (hoffers : record.Offers "qos") :
    flow.Locates (requireQos path qos) :=
  locates_field h hoffers

theorem locates_requireJdbc {url : String} (h : flow.Shows path.trail record a) (hoffers : record.Offers "url") :
    flow.Locates (requireJdbc path code url) :=
  locates_field h hoffers

theorem locates_unitRate {what : String} {rate : Double} (h : flow.Shows path.trail record a)
    (hoffers : record.Offers field) : flow.Locates (unitRate path field code what rate) :=
  locates_field h hoffers

end Fields

/-! ### Metadata -/

theorem shows_metadata (flow : Flow) : flow.Shows (Path.mk "metadata" []).trail Metadata.record flow.metadata :=
  (flow.shows_root.required .here).shows

theorem points_dataRetention (h : flow.metadata.compliance ≠ none) :
    flow.Points (((Path.mk "metadata" []).field "compliance").field "dataRetention").trail := by
  obtain ⟨compliance, hcompliance⟩ := Option.ne_none_iff_exists'.1 h
  have hhas : Metadata.record.Has flow.metadata (.optional "compliance" (.record Compliance.record))
      (some compliance) :=
    hcompliance ▸ .there (.there (.there (.there (.there (.there .here)))))
  exact ((shows_metadata flow).optional hhas).shows.points_field (by simp [Compliance.record])

/-- Without access control, the path leaves the tree at the metadata. -/
theorem points_roles (flow : Flow) : flow.Points (((Path.mk "metadata" []).field "rbac").field "roles").trail := by
  have hhas : Metadata.record.Has flow.metadata (.optional "rbac" (.record Rbac.record)) flow.metadata.rbac :=
    .there (.there (.there (.there (.there (.there (.there .here))))))
  cases hrbac : flow.metadata.rbac with
  | some rbac =>
    rw [hrbac] at hhas
    exact ((shows_metadata flow).optional hhas).shows.points_field (by simp [Rbac.record])
  | none =>
    rw [hrbac] at hhas
    have hpoints : flow.Points ((Path.mk "metadata" []).trail ++ .field "rbac" :: ["roles"].map .field) :=
      (shows_metadata flow).points_absent hhas ⟨_, _, _, rfl, List.mem_cons_self, trivial⟩
    exact hpoints

theorem locates_metadata (flow : Flow) : flow.Locates (metadata flow.metadata) := by
  have hmetadata := shows_metadata flow
  have hversion : flow.Locates (version flow.metadata.version) := by
    unfold version
    split
    · exact locates_nil
    · exact locates_singleton (hmetadata.points_field (by simp [Metadata.record]))
  have howners : flow.Locates (flow.metadata.owners.mapIdx owner).flatten := by
    have hlist : flow.Holds ((Path.mk "metadata" []).field "owners").trail (.list (.record Owner.record))
        flow.metadata.owners := hmetadata.withDefault (.there (.there (.there (.there (.there .here)))))
    exact locates_flatten_mapIdx fun i hi => locates_field (hlist.element i hi).shows (by simp [Owner.record])
  refine ((((Flow.Locates.append ?_ hversion).append ?_).append howners).append ?_).append ?_
  · exact locates_requireText hmetadata (by simp [Metadata.record])
  · exact locates_field hmetadata (by simp [Metadata.record])
  · refine locates_when fun hreason => points_dataRetention fun hnone => ?_
    rw [hnone] at hreason
    cases hreason
  · exact locates_when fun _ => points_roles flow

/-! ### Triggers -/

/-- A trigger shows the fields of its kind. -/
theorem shows_trigger {segments : List Segment} (t : Trigger) : flow.Holds segments Trigger.schema t →
    match t with
    | .http t => flow.Shows segments HttpTrigger.record t
    | .schedule t => flow.Shows segments ScheduleTrigger.record t
    | .kafka t => flow.Shows segments KafkaTrigger.record t
    | .mqtt t => flow.Shows segments MqttTrigger.record t
    | .sftp t => flow.Shows segments SftpTrigger.record t
    | .jdbc t => flow.Shows segments JdbcTrigger.record t
    | .fileWatch t => flow.Shows segments FileWatchTrigger.record t := by
  intro h
  cases t <;> exact h.shows_member (by repeat constructor)

theorem locates_trigger {path : Path} {t : Trigger} (h : flow.Holds path.trail Trigger.schema t) :
    flow.Locates (trigger path t) := by
  have hshows := shows_trigger t h
  cases t with
  | http t =>
    refine (locates_when fun hreason => ?_).append (locates_when fun hreason => ?_)
    · obtain ⟨auth, hauth, -⟩ := (Option.any_eq_true _ _).1 hreason
      have hhas : HttpTrigger.record.Has t (.optional "auth" (.record HttpAuth.record)) (some auth) :=
        hauth ▸ .there (.there .here)
      exact (Flow.Shows.optional hshows hhas).shows.points_field (by simp [HttpAuth.record])
    · obtain ⟨limit, hlimit, -⟩ := (Option.any_eq_true _ _).1 hreason
      have hhas : HttpTrigger.record.Has t (.optional "rateLimit" (.record RateLimit.record)) (some limit) :=
        hlimit ▸ .there (.there (.there .here))
      exact (Flow.Shows.optional hshows hhas).shows.points_field (by simp [RateLimit.record])
  | schedule t =>
    refine (locates_field hshows (by simp [ScheduleTrigger.record])).append ?_
    unfold dateRange
    split
    · exact locates_field hshows (by simp [ScheduleTrigger.record])
    · exact locates_nil
  | kafka t => exact locates_requireSome hshows (by simp [KafkaTrigger.record])
  | mqtt t => exact locates_requireQos hshows (by simp [MqttTrigger.record])
  | sftp t => exact locates_when fun _ => h.points
  | jdbc t => exact locates_requireJdbc hshows (by simp [JdbcTrigger.record])
  | fileWatch t => exact locates_field hshows (by simp [FileWatchTrigger.record])

theorem locates_triggers (flow : Flow) : flow.Locates (triggers flow) := by
  have hlist : flow.Holds (Path.mk "triggers" []).trail (.list Trigger.schema) flow.triggers :=
    flow.shows_root.withDefault (.there .here)
  exact locates_flatten_mapIdx fun i hi => locates_trigger (hlist.element i hi)

/-! ### Steps -/

theorem shows_step (flow : Flow) (i : Nat) (hi : i < flow.steps.length) :
    flow.Shows (stepPath i).trail Step.record flow.steps[i] := by
  have hlist : flow.Holds (Path.mk "steps" []).trail (.list (.record Step.record)) flow.steps :=
    flow.shows_root.required (.there (.there .here))
  exact (hlist.element i hi).shows

theorem holds_action (flow : Flow) (i : Nat) (hi : i < flow.steps.length) :
    flow.Holds ((stepPath i).field "step").trail StepKind.schema flow.steps[i].action :=
  (shows_step flow i hi).required (.there (.there (.there .here)))

/-- What a step does shows the fields of its kind. -/
theorem shows_stepKind {segments : List Segment} (k : StepKind) : flow.Holds segments StepKind.schema k →
    match k with
    | .connector s => flow.Shows segments ConnectorStep.record s
    | .map s => flow.Shows segments MapStep.record s
    | .script s => flow.Shows segments ScriptStep.record s
    | .enrich s => flow.Shows segments EnrichStep.record s
    | .branch s => flow.Shows segments BranchStep.record s
    | .retry s => flow.Shows segments RetryStep.record s
    | .dlq s => flow.Shows segments DlqStep.record s
    | .throttle s => flow.Shows segments ThrottleStep.record s
    | .checkpoint s => flow.Shows segments CheckpointStep.record s
    | .circuitBreaker s => flow.Shows segments CircuitBreakerStep.record s := by
  intro h
  cases k <;> exact h.shows_member (by repeat constructor)

theorem shows_condition {path : Path} {s : BranchStep} (h : flow.Shows path.trail BranchStep.record s) (i : Nat)
    (hi : i < s.conditions.length) :
    flow.Shows ((path.field "conditions").index i).trail BranchCondition.record s.conditions[i] := by
  have hlist : flow.Holds (path.field "conditions").trail (.list (.record BranchCondition.record)) s.conditions :=
    h.required .here
  exact (hlist.element i hi).shows

theorem locates_stepKind {path : Path} {k : StepKind} (h : flow.Holds path.trail StepKind.schema k) :
    flow.Locates (stepKind path k) := by
  have hshows := shows_stepKind k h
  cases k with
  | connector s =>
    exact ((locates_requireText hshows (by simp [ConnectorStep.record])).append
      (locates_requireText hshows (by simp [ConnectorStep.record]))).append
      (locates_requirePositive hshows (by simp [ConnectorStep.record]))
  | map s => exact locates_requireText hshows (by simp [MapStep.record])
  | script s =>
    exact (locates_requireText hshows (by simp [ScriptStep.record])).append
      (locates_requirePositive hshows (by simp [ScriptStep.record]))
  | enrich s =>
    exact (locates_requireText hshows (by simp [EnrichStep.record])).append
      (locates_requireText hshows (by simp [EnrichStep.record]))
  | branch s =>
    refine (locates_field hshows (by simp [BranchStep.record])).append (locates_flatten_mapIdx fun i hi => ?_)
    have hcondition := shows_condition hshows i hi
    exact (locates_requireText hcondition (by simp [BranchCondition.record])).append
      (locates_requireText hcondition (by simp [BranchCondition.record]))
  | retry s => exact locates_requirePositive hshows (by simp [RetryStep.record])
  | dlq s => exact locates_requireText hshows (by simp [DlqStep.record])
  | throttle s =>
    exact (locates_field hshows (by simp [ThrottleStep.record])).append
      (locates_requirePositive hshows (by simp [ThrottleStep.record]))
  | checkpoint s => exact locates_requireText hshows (by simp [CheckpointStep.record])
  | circuitBreaker s =>
    exact (locates_requirePositive hshows (by simp [CircuitBreakerStep.record])).append
      (locates_requirePositive hshows (by simp [CircuitBreakerStep.record]))

/-! ### Transports and policies -/

/-- A transport shows the fields of its kind. -/
theorem shows_transport {segments : List Segment} (t : Transport) : flow.Holds segments Transport.schema t →
    match t with
    | .rest t => flow.Shows segments RestTransport.record t
    | .soap t => flow.Shows segments SoapTransport.record t
    | .graphQl t => flow.Shows segments GraphQlTransport.record t
    | .jdbc t => flow.Shows segments JdbcTransport.record t
    | .kafka t => flow.Shows segments KafkaTransport.record t
    | .mqtt t => flow.Shows segments MqttTransport.record t
    | .sftp t => flow.Shows segments SftpTransport.record t
    | .fs t => flow.Shows segments FsTransport.record t
    | .custom t => flow.Shows segments CustomTransport.record t := by
  intro h
  cases t <;> exact h.shows_member (by repeat constructor)

theorem locates_transport {path : Path} {t : Transport} (h : flow.Holds path.trail Transport.schema t) :
    flow.Locates (transport path t) := by
  have hshows := shows_transport t h
  cases t with
  | rest t =>
    exact (locates_requireText hshows (by simp [RestTransport.record])).append
      (locates_requirePositive hshows (by simp [RestTransport.record]))
  | soap t =>
    exact (locates_requireText hshows (by simp [SoapTransport.record])).append
      (locates_requireText hshows (by simp [SoapTransport.record]))
  | graphQl t =>
    exact (locates_requireText hshows (by simp [GraphQlTransport.record])).append
      (locates_requireText hshows (by simp [GraphQlTransport.record]))
  | jdbc t =>
    exact (locates_requireJdbc hshows (by simp [JdbcTransport.record])).append
      (locates_requireText hshows (by simp [JdbcTransport.record]))
  | kafka t =>
    exact (locates_requireText hshows (by simp [KafkaTransport.record])).append
      (locates_requireSome hshows (by simp [KafkaTransport.record]))
  | mqtt t =>
    exact ((locates_requireText hshows (by simp [MqttTransport.record])).append
      (locates_requireText hshows (by simp [MqttTransport.record]))).append
      (locates_requireQos hshows (by simp [MqttTransport.record]))
  | sftp t =>
    exact (locates_requireText hshows (by simp [SftpTransport.record])).append
      (locates_requireText hshows (by simp [SftpTransport.record]))
  | fs t => exact locates_requireText hshows (by simp [FsTransport.record])
  | custom t => exact locates_requireText hshows (by simp [CustomTransport.record])

/-- A policy shows the fields of its kind. -/
theorem shows_policy {segments : List Segment} (p : Policy) : flow.Holds segments Policy.schema p →
    match p with
    | .qos p => flow.Shows segments QosPolicy.record p
    | .idempotency p => flow.Shows segments IdempotencyPolicy.record p
    | .mtls p => flow.Shows segments MtlsPolicy.record p
    | .opa p => flow.Shows segments OpaPolicy.record p
    | .secrets p => flow.Shows segments SecretsPolicy.record p := by
  intro h
  cases p <;> exact h.shows_member (by repeat constructor)

theorem locates_policy {path : Path} {p : Policy} (h : flow.Holds path.trail Policy.schema p) :
    flow.Locates (policy path p) := by
  have hshows := shows_policy p h
  cases p with
  | qos p => exact locates_requirePositive hshows (by simp [QosPolicy.record])
  | idempotency p =>
    exact (locates_requireText hshows (by simp [IdempotencyPolicy.record])).append
      (locates_requirePositive hshows (by simp [IdempotencyPolicy.record]))
  | mtls p =>
    exact (locates_requireText hshows (by simp [MtlsPolicy.record])).append
      (locates_requireText hshows (by simp [MtlsPolicy.record]))
  | opa p => exact locates_requireText hshows (by simp [OpaPolicy.record])
  | secrets p =>
    exact (locates_requireSome hshows (by simp [SecretsPolicy.record])).append
      (locates_requirePositive hshows (by simp [SecretsPolicy.record]))

theorem locates_transports (flow : Flow) : flow.Locates (transports flow) := by
  refine locates_flatten_mapIdx fun i hi => locates_flatten_option fun t ht => locates_transport ?_
  have hhas : Step.record.Has flow.steps[i] (.optional "transport" Transport.schema) (some t) :=
    ht ▸ .there (.there (.there (.there .here)))
  exact (shows_step flow i hi).optional hhas

theorem locates_policies (flow : Flow) : flow.Locates (policies flow) := by
  refine locates_flatten_mapIdx fun i hi => ?_
  have hlist : flow.Holds ((stepPath i).field "policies").trail (.list Policy.schema) flow.steps[i].policies :=
    (shows_step flow i hi).withDefault (.there (.there (.there (.there (.there .here)))))
  exact locates_flatten_mapIdx fun j hj => locates_policy (hlist.element j hj)

/-! ### The step graph -/

section Graph

variable {steps : List Step} {i : Nat}

theorem locates_stepId (hi : i < flow.steps.length) : flow.Locates (stepId steps i flow.steps[i]) := by
  have hid : flow.Points ((stepPath i).field "id").trail :=
    (shows_step flow i hi).points_field (by simp [Step.record])
  unfold stepId
  split
  · exact locates_singleton hid
  · split
    · exact locates_when fun _ => hid
    · exact locates_nil

/-- Findings on the targets that come next. -/
theorem points_next (hi : i < flow.steps.length) (j : Nat) (hj : j < flow.steps[i].next.length) :
    flow.Points (((stepPath i).field "next").index j).trail := by
  have hlist : flow.Holds ((stepPath i).field "next").trail (.list .string) flow.steps[i].next :=
    (shows_step flow i hi).withDefault (.there (.there (.there (.there (.there (.there .here))))))
  exact (hlist.element j hj).points

theorem points_error (hi : i < flow.steps.length) : flow.Points ((stepPath i).field "error").trail :=
  (shows_step flow i hi).points_field (by simp [Step.record])

theorem points_branchRoutes {path : Path} {action : StepKind}
    (h : flow.Holds (path.field "step").trail StepKind.schema action) :
    ∀ route ∈ branchRoutes path action, flow.Points route.1.trail := by
  have hshows := shows_stepKind action h
  cases action with
  | branch s =>
    intro route hroute
    rcases List.mem_append.1 hroute with hcondition | hfallback
    · obtain ⟨j, hj, rfl⟩ := List.mem_mapIdx.1 hcondition
      exact (shows_condition hshows j hj).points_field (by simp [BranchCondition.record])
    · obtain ⟨target, -, rfl⟩ := List.mem_map.1 hfallback
      exact Flow.Shows.points_field hshows (by simp [BranchStep.record])
  | _ => exact fun _ h => absurd h List.not_mem_nil

theorem locates_references (hi : i < flow.steps.length) : flow.Locates (references steps i flow.steps[i]) := by
  refine (Flow.Locates.append ?_ ?_).append ?_
  · exact locates_flatten_mapIdx fun j hj => locates_when fun _ => points_next hi j hj
  · exact locates_flatten_option fun target _ => locates_when fun _ => points_error hi
  · refine forall_mem_flatten_map.2 fun route hroute => ?_
    exact locates_when fun _ => points_branchRoutes (holds_action flow i hi) route hroute

theorem locates_selfReferences {severity : Severity} (hi : i < flow.steps.length) :
    flow.Locates (selfReferences severity i flow.steps[i]) := by
  unfold selfReferences
  split
  · exact locates_nil
  · refine (Flow.Locates.append ?_ ?_).append ?_
    · exact locates_flatten_mapIdx fun j hj => locates_when fun _ => points_next hi j hj
    · exact locates_flatten_option fun target _ => locates_when fun _ => points_error hi
    · refine forall_mem_flatten_map.2 fun route hroute => ?_
      exact locates_when fun _ => points_branchRoutes (holds_action flow i hi) route hroute

theorem locates_cycles (flow : Flow) (settings : RuleSettings) : flow.Locates (cycles flow settings) := by
  unfold cycles
  split
  · exact locates_nil
  · refine List.forall_mem_map.2 fun members hmembers => ⟨_, rfl, ?_⟩
    exact (shows_step flow _ (Graph.head_lt_of_mem_components hmembers)).points

theorem locates_unreachableSteps (flow : Flow) (settings : RuleSettings) :
    flow.Locates (unreachableSteps flow settings) := by
  unfold unreachableSteps
  split
  · exact locates_flatten_mapIdx fun i hi => locates_when fun _ => (shows_step flow i hi).points
  · exact locates_nil

end Graph

/-! ### Observability -/

theorem locates_observability {o : Observability} (h : flow.observability = some o) :
    flow.Locates (observability o) := by
  have hhas : Flow.record.Has flow (.optional "observability" (.record Observability.record)) (some o) :=
    h ▸ .there (.there (.there .here))
  have hshows : flow.Shows (Path.mk "observability" []).trail Observability.record o :=
    (flow.shows_root.optional hhas).shows
  refine (locates_unitRate hshows (by simp [Observability.record])).append ?_
  refine locates_flatten_option fun sampling hs => ?_
  have hsampling : Observability.record.Has o (.optional "payloadSampling" (.record PayloadSampling.record))
      (some sampling) := hs ▸ .there (.there (.there .here))
  have hpayload := (hshows.optional hsampling).shows
  exact (locates_unitRate hpayload (by simp [PayloadSampling.record])).append
    (locates_field hpayload (by simp [PayloadSampling.record]))

end Rules

/-! ### All rules -/

theorem Rule.locates_check (rule : Rule) (flow : Flow) (settings : RuleSettings) :
    flow.Locates (rule.check flow settings) := by
  cases rule with
  | metadata => exact Rules.locates_metadata flow
  | triggers => exact Rules.locates_triggers flow
  | steps => exact locates_flatten_mapIdx fun i hi => Rules.locates_stepKind (Rules.holds_action flow i hi)
  | transports => exact Rules.locates_transports flow
  | policies => exact Rules.locates_policies flow
  | duplicateStepIds => exact locates_flatten_mapIdx fun i hi => Rules.locates_stepId hi
  | stepReferences => exact locates_flatten_mapIdx fun i hi => Rules.locates_references hi
  | selfReference =>
    rw [check, Rules.selfReference]
    split
    · exact locates_nil
    · exact locates_flatten_mapIdx fun i hi => Rules.locates_selfReferences hi
  | cycles => exact Rules.locates_cycles flow settings
  | unreachableSteps => exact Rules.locates_unreachableSteps flow settings
  | observability => exact locates_flatten_option fun o ho => Rules.locates_observability ho

/-- Every finding of the rules has a path of names and indices that leads to a node of the tree that the flow is
written as, or to a mapping and there to an optional field that is absent; all its indices lie within their
lists. -/
theorem findings_point_into_document (flow : Flow) (settings : RuleSettings) :
    ∀ finding ∈ Rule.run flow settings, ∃ path : Path, finding.path = some path.text ∧ flow.Points path.trail ∧
      ∀ before i rest, path.trail = before ++ .index i :: rest →
        ∃ items, flow.written.follow before = some (.list items) ∧ i < items.length := by
  intro finding hmem
  obtain ⟨rule, -, hcheck⟩ := List.mem_flatMap.1 (List.mem_filter.1 hmem).1
  obtain ⟨path, htext, hpoints⟩ := rule.locates_check flow settings finding hcheck
  exact ⟨path, htext, hpoints, fun _ _ _ hindex => hpoints.index_lt hindex⟩

/-- A flow with health data and without access control. -/
def unguarded : Flow where
  metadata := ⟨"f", "1.0.0", none, none, [], [⟨"o", "o@example.org", none, none⟩],
    some ⟨false, true, false, false, some 30, none⟩, none⟩
  triggers := []
  steps := [⟨"a", "A", none, .map ⟨"x", none⟩, none, [], [], none⟩]
  observability := none

/-- What is wrong with it. -/
def unguardedFinding : Finding :=
  .error (((Path.mk "metadata" []).field "rbac").field "roles") .hipaaRbacRequired
    "HIPAA flows must declare at least one RBAC role"

theorem findings_point_into_unguarded :
    unguardedFinding ∈ Rule.run unguarded {} ∧ unguarded.written.follow [.field "metadata", .field "rbac"] = none ∧
      ∃ path : Path, unguardedFinding.path = some path.text ∧ unguarded.Points path.trail ∧
        ∀ before i rest, path.trail = before ++ .index i :: rest →
          ∃ items, unguarded.written.follow before = some (.list items) ∧ i < items.length := by
  have hmem : unguardedFinding ∈ Rule.run unguarded {} := by decide +kernel
  exact ⟨hmem, rfl, findings_point_into_document unguarded {} unguardedFinding hmem⟩

end FlowCheck
