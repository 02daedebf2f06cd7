import FlowCheck.Model.Flow
import FlowCheck.Proofs.Schema.Names

/-!
# The names in the schema of flows

No name in the schema of flows has a blank or a backtick (`Flow.plain_record`).  The types of the model are that
of flows and those of its parts (`Modelled`), so that no name in one of them has (`Modelled.plain`).
-/

namespace FlowCheck

variable {α β ρ σ : Type}

theorem HttpAuth.plain_record : HttpAuth.record.Plain := by
  simp +decide [HttpAuth.record, AuthKind.choices]

theorem RateLimit.plain_record : RateLimit.record.Plain := by
  simp +decide [RateLimit.record]

theorem BranchCondition.plain_record : BranchCondition.record.Plain := by
  simp +decide [BranchCondition.record]

theorem Owner.plain_record : Owner.record.Plain := by
  simp +decide [Owner.record]

theorem Compliance.plain_record : Compliance.record.Plain := by
  simp +decide [Compliance.record, DataClassification.choices]

theorem Rbac.plain_record : Rbac.record.Plain := by
  simp +decide [Rbac.record]

theorem PayloadSampling.plain_record : PayloadSampling.record.Plain := by
  simp +decide [PayloadSampling.record]

theorem Metadata.plain_record : Metadata.record.Plain := by
  simp +decide [Metadata.record, Owner.plain_record, Compliance.plain_record, Rbac.plain_record]

theorem Trigger.plain_schema : Trigger.schema.Plain := by
  simp +decide [Trigger.schema, Trigger.variants, HttpTrigger.record, HttpAuth.plain_record, RateLimit.plain_record,
    ScheduleTrigger.record, KafkaTrigger.record, MqttTrigger.record, SftpTrigger.record, JdbcTrigger.record,
    FileWatchTrigger.record, HttpMethod.choices, OffsetReset.choices, FileEvent.choices]

theorem Transport.plain_schema : Transport.schema.Plain := by
  simp +decide [Transport.schema, Transport.variants, RestTransport.record, SoapTransport.record,
    GraphQlTransport.record, JdbcTransport.record, KafkaTransport.record, MqttTransport.record, SftpTransport.record,
    FsTransport.record, CustomTransport.record, RestMethod.choices, FsMode.choices]

theorem Policy.plain_schema : Policy.schema.Plain := by
  simp +decide [Policy.schema, Policy.variants, QosPolicy.record, IdempotencyPolicy.record, MtlsPolicy.record,
    OpaPolicy.record, SecretsPolicy.record, Priority.choices, DeliveryGuarantee.choices]

theorem StepKind.plain_schema : StepKind.schema.Plain := by
  simp +decide [StepKind.schema, StepKind.variants, ConnectorStep.record, MapStep.record, ScriptStep.record,
    EnrichStep.record, BranchStep.record, BranchCondition.plain_record, RetryStep.record, DlqStep.record,
    ThrottleStep.record, CheckpointStep.record, CircuitBreakerStep.record, ScriptLanguage.choices, Backoff.choices]

theorem Step.plain_record : Step.record.Plain := by
  simp +decide [Step.record, StepKind.plain_schema, Transport.plain_schema, Policy.plain_schema]

theorem Observability.plain_record : Observability.record.Plain := by
  simp +decide [Observability.record, PayloadSampling.plain_record, TracePropagation.choices]

theorem Flow.plain_record : Flow.record.Plain := by
  simp +decide [Flow.record, Metadata.plain_record, Trigger.plain_schema, Step.plain_record, Observability.plain_record]

/-! ### The types of the model -/

/-- The values of the field are read with the schema. -/
inductive Field.Uses : {α : Type} → Field α → {β : Type} → Schema β → Prop
  | required {β : Type} {name : String} {schema : Schema β} : (Field.required name schema).Uses schema
  | optional {β : Type} {name : String} {schema : Schema β} : (Field.optional name schema).Uses schema
  | defaulted {β : Type} {name : String} {schema : Schema β} {default : β} {omitted : β → Bool}
      {eq_default : ∀ a, omitted a = true → a = default} :
      (Field.defaulted name schema default omitted eq_default).Uses schema

/-- The values of one of the fields are read with the schema. -/
inductive Fields.Uses : {ρ : Type} → Fields ρ → {β : Type} → Schema β → Prop
  | here {α ρ β : Type} {field : Field α} {rest : Fields ρ} {schema : Schema β} (h : field.Uses schema) :
      (Fields.cons field rest).Uses schema
  | there {α ρ β : Type} {field : Field α} {rest : Fields ρ} {schema : Schema β} (h : rest.Uses schema) :
      (Fields.cons field rest).Uses schema

/-- One of the members is read with the record. -/
inductive Variants.Includes : {σ : Type} → Variants σ → {α : Type} → Record α → Prop
  | here {α σ : Type} {tag : String} {aliases : List String} {record : Record α} {rest : Variants σ} :
      (Variants.cons tag aliases record rest).Includes record
  | there {α β σ : Type} {tag : String} {aliases : List String} {other : Record β} {record : Record α}
      {rest : Variants σ} (h : rest.Includes record) : (Variants.cons tag aliases other rest).Includes record

/-- The types of the model: flows, what their fields and the elements of their lists are, and so on. -/
inductive Modelled : {α : Type} → Schema α → Prop
  | flow : Modelled (.record Flow.record)
  | field {α β ρ : Type} {name : String} {fields : Fields ρ} {build : ρ → α} {parts : α → ρ}
      {build_parts : ∀ a, build (parts a) = a} {parts_build : ∀ r, parts (build r) = r} {schema : Schema β}
      (h : Modelled (.record (.of name fields build parts build_parts parts_build))) (hused : fields.Uses schema) :
      Modelled schema
  | element {α : Type} {element : Schema α} (h : Modelled (.list element)) : Modelled element
  | member {α β σ : Type} {name : String} {variants : Variants σ} {build : σ → α} {parts : α → σ}
      {build_parts : ∀ a, build (parts a) = a} {parts_build : ∀ s, parts (build s) = s} {record : Record β}
      (h : Modelled (.tagged name variants build parts build_parts parts_build))
      (hincluded : variants.Includes record) : Modelled (.record record)

theorem Field.Uses.plain {field : Field α} {schema : Schema β} (h : field.Uses schema) (hplain : field.Plain) :
    schema.Plain := by
  cases h with
  | required => exact hplain.2
  | optional => exact hplain.2
  | defaulted => exact hplain.2

theorem Fields.Uses.plain {fields : Fields ρ} {schema : Schema β} (h : fields.Uses schema) (hplain : fields.Plain) :
    schema.Plain := by
  induction h with
  | here h => exact h.plain hplain.1
  | there _ ih => exact ih hplain.2

theorem Variants.Includes.plain {variants : Variants σ} {record : Record α} (h : variants.Includes record)
    (hplain : variants.Plain) : record.Plain := by
  induction h with
  | here => exact hplain.2.1
  | there _ ih => exact ih hplain.2.2

theorem Modelled.plain {schema : Schema α} (h : Modelled schema) : schema.Plain := by
  induction h with
  | flow => exact Flow.plain_record
  | field _ hused ih => exact hused.plain ih.2
  | element _ ih => exact ih
  | member _ hincluded ih => exact hincluded.plain ih.2

end FlowCheck
