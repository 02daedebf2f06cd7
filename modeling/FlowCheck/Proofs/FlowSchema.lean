import FlowCheck.Model.Flow
import FlowCheck.Proofs.Schema.Depth

/-!
# The schema of flows

The schema of flows is lawful (`Flow.lawful_record`): what is written reads back.  Written defaults make a flow
at most five levels deep (`Flow.addedDepth_record`): a list of policies in a step in the list of steps, or a
rate limit in a trigger in the list of triggers.
-/

namespace FlowCheck

theorem Metadata.lawful_record : Metadata.record.Lawful := by
  simp [Metadata.record, Owner.record, Compliance.record, Rbac.record]

theorem Trigger.lawful_schema : Trigger.schema.Lawful := by
  simp [Trigger.schema, Trigger.variants, HttpTrigger.record, HttpAuth.record, RateLimit.record,
    ScheduleTrigger.record, KafkaTrigger.record, MqttTrigger.record, SftpTrigger.record, JdbcTrigger.record,
    FileWatchTrigger.record, tagField]

theorem Transport.lawful_schema : Transport.schema.Lawful := by
  simp [Transport.schema, Transport.variants, RestTransport.record, SoapTransport.record, GraphQlTransport.record,
    JdbcTransport.record, KafkaTransport.record, MqttTransport.record, SftpTransport.record, FsTransport.record,
    CustomTransport.record, tagField]

theorem Policy.lawful_schema : Policy.schema.Lawful := by
  simp [Policy.schema, Policy.variants, QosPolicy.record, IdempotencyPolicy.record, MtlsPolicy.record,
    OpaPolicy.record, SecretsPolicy.record, tagField]

theorem StepKind.lawful_schema : StepKind.schema.Lawful := by
  simp [StepKind.schema, StepKind.variants, ConnectorStep.record, MapStep.record, ScriptStep.record,
    EnrichStep.record, BranchStep.record, BranchCondition.record, RetryStep.record, DlqStep.record,
    ThrottleStep.record, CheckpointStep.record, CircuitBreakerStep.record, tagField]

theorem Step.lawful_record : Step.record.Lawful := by
  simp [Step.record, StepKind.lawful_schema, Transport.lawful_schema, Policy.lawful_schema]

theorem Observability.lawful_record : Observability.record.Lawful := by
  simp [Observability.record, PayloadSampling.record]

theorem Flow.lawful_record : Flow.record.Lawful := by
  simp [Flow.record, Metadata.lawful_record, Trigger.lawful_schema, Step.lawful_record, Observability.lawful_record]

/-- A written flow that consists of defaults is five levels deep. -/
theorem Flow.addedDepth_record : Flow.record.addedDepth = 5 := rfl

end FlowCheck
