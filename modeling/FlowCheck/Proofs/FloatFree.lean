import FlowCheck.Model.Flow
import FlowCheck.Schema.Encode

/-!
# Values without doubles

A tree is without doubles if no number in it is one.  What a schema writes is without doubles if no part of the
value is written as one (`Schema.floatFree_encode`).  Of a flow, the observability section, steps that throttle
and free-form values can hold doubles; all else is written without (`Flow.floatFree_record`).
-/

namespace FlowCheck

/-! ### Trees -/

namespace Value

mutual

/-- No number of the tree is a double. -/
@[simp] def FloatFree : Value → Prop
  | .float _ => False
  | .list items => FloatFreeItems items
  | .object fields => FloatFreeFields fields
  | _ => True

@[simp] def FloatFreeItems : List Value → Prop
  | [] => True
  | v :: vs => FloatFree v ∧ FloatFreeItems vs

@[simp] def FloatFreeFields : List (String × Value) → Prop
  | [] => True
  | (_, v) :: fields => FloatFree v ∧ FloatFreeFields fields

end

theorem floatFreeItems_iff {items : List Value} : FloatFreeItems items ↔ ∀ v ∈ items, v.FloatFree := by
  induction items with
  | nil => simp
  | cons v items ih => simp [ih]

theorem floatFreeFields_iff {fields : List (String × Value)} :
    FloatFreeFields fields ↔ ∀ field ∈ fields, field.2.FloatFree := by
  induction fields with
  | nil => simp
  | cons field fields ih => simp [ih]

end Value

/-! ### Written values -/

mutual

/-- No part of the value is written as a double. -/
@[simp] def Schema.FloatFree : {α : Type} → Schema α → α → Prop
  | _, .string, _ | _, .bool, _ | _, .unsigned _, _ | _, .date, _ | _, .texts, _ | _, .choice _, _ => True
  | _, .number, _ => False
  | _, .free, v => v.FloatFree
  | _, .list element, as => ∀ a ∈ as, element.FloatFree a
  | _, .record record, a => record.FloatFree a
  | _, .tagged _ variants _ parts _ _, a => variants.FloatFree (parts a)

@[simp] def Record.FloatFree : {α : Type} → Record α → α → Prop
  | _, .of _ fields _ parts _ _, a => fields.FloatFree (parts a)

@[simp] def Field.FloatFree : {α : Type} → Field α → α → Prop
  | _, .required _ schema, a => schema.FloatFree a
  | _, .optional _ schema, o => ∀ a ∈ o, schema.FloatFree a
  | _, .defaulted _ schema _ _ _, a => schema.FloatFree a

@[simp] def Fields.FloatFree : {ρ : Type} → Fields ρ → ρ → Prop
  | _, .nil, _ => True
  | _, .cons field rest, (a, row) => field.FloatFree a ∧ rest.FloatFree row

@[simp] def Variants.FloatFree : {σ : Type} → Variants σ → σ → Prop
  | _, .cons _ _ record _, .inl a => record.FloatFree a
  | _, .cons _ _ _ rest, .inr s => rest.FloatFree s

end

mutual

theorem Schema.floatFree_encode : {α : Type} → (schema : Schema α) → {a : α} → schema.FloatFree a →
    (schema.encode a).FloatFree
  | _, .string, _, _ | _, .bool, _, _ | _, .unsigned _, _, _ | _, .date, _, _ | _, .choice _, _, _ => trivial
  | _, .number, _, h => h.elim
  | _, .texts, _, _ => Value.floatFreeFields_iff.2 (List.forall_mem_map.2 fun _ _ => trivial)
  | _, .free, _, h => h
  | _, .list element, _, h =>
    Value.floatFreeItems_iff.2 (List.forall_mem_map.2 fun a ha => Schema.floatFree_encode element (h a ha))
  | _, .record record, _, h => Value.floatFreeFields_iff.2 (Record.floatFree_encodeEntries record h)
  | _, .tagged _ variants _ _ _ _, _, h => Value.floatFreeFields_iff.2 (Variants.floatFree_encodeEntries variants h)

theorem Record.floatFree_encodeEntries : {α : Type} → (record : Record α) → {a : α} → record.FloatFree a →
    ∀ entry ∈ record.encodeEntries a, entry.2.FloatFree
  | _, .of _ fields _ _ _ _, _, h => Fields.floatFree_encodeEntries fields h

theorem Field.floatFree_encodeEntry : {α : Type} → (field : Field α) → {a : α} → field.FloatFree a →
    ∀ entry ∈ field.encodeEntry a, entry.2.FloatFree
  | _, .required _ schema, _, h => List.forall_mem_singleton.2 (Schema.floatFree_encode schema h)
  | _, .optional _ _, none, _ => List.forall_mem_nil _
  | _, .optional _ schema, some a, h => List.forall_mem_singleton.2 (Schema.floatFree_encode schema (h a rfl))
  | _, .defaulted _ schema _ omitted _, a, h => by
    rw [Field.encodeEntry]
    split
    · exact List.forall_mem_nil _
    · exact List.forall_mem_singleton.2 (Schema.floatFree_encode schema h)

theorem Fields.floatFree_encodeEntries : {ρ : Type} → (fields : Fields ρ) → {row : ρ} → fields.FloatFree row →
    ∀ entry ∈ fields.encodeEntries row, entry.2.FloatFree
  | _, .nil, _, _ => List.forall_mem_nil _
  | _, .cons field rest, (_, _), h =>
    List.forall_mem_append.2 ⟨Field.floatFree_encodeEntry field h.1, Fields.floatFree_encodeEntries rest h.2⟩

theorem Variants.floatFree_encodeEntries : {σ : Type} → (variants : Variants σ) → {s : σ} → variants.FloatFree s →
    ∀ entry ∈ variants.encodeEntries s, entry.2.FloatFree
  | _, .cons _ _ record _, .inl _, h =>
    List.forall_mem_cons.2 ⟨trivial, Record.floatFree_encodeEntries record h⟩
  | _, .cons _ _ _ rest, .inr _, h => Variants.floatFree_encodeEntries rest h

end

/-! ### Flows -/

/-- Throttling has a rate, which is a double; the configuration of a connector can hold doubles. -/
def StepKind.FloatFree : StepKind → Prop
  | .throttle _ => False
  | .connector settings => ∀ v ∈ settings.config, v.FloatFree
  | _ => True

def Transport.FloatFree : Transport → Prop
  | .graphQl settings => ∀ v ∈ settings.bindings, v.FloatFree
  | .custom settings => ∀ v ∈ settings.config, v.FloatFree
  | _ => True

/-- No number of the flow is a double: nothing is observed or throttled, and free-form values have integers only. -/
structure Flow.FloatFree (flow : Flow) : Prop where
  observability : flow.observability = none
  action : ∀ step ∈ flow.steps, step.action.FloatFree
  transport : ∀ step ∈ flow.steps, ∀ t ∈ step.transport, t.FloatFree

theorem Metadata.floatFree_record (m : Metadata) : Metadata.record.FloatFree m := by
  simp [Metadata.record, Owner.record, Compliance.record, Rbac.record]

theorem Trigger.floatFree_schema (t : Trigger) : Trigger.schema.FloatFree t := by
  cases t <;> simp [Trigger.schema, Trigger.variants, HttpTrigger.record, HttpAuth.record, RateLimit.record,
    ScheduleTrigger.record, KafkaTrigger.record, MqttTrigger.record, SftpTrigger.record, JdbcTrigger.record,
    FileWatchTrigger.record]

theorem Policy.floatFree_schema (p : Policy) : Policy.schema.FloatFree p := by
  cases p <;> simp [Policy.schema, Policy.variants, QosPolicy.record, IdempotencyPolicy.record, MtlsPolicy.record,
    OpaPolicy.record, SecretsPolicy.record]

theorem Transport.floatFree_schema {t : Transport} (h : t.FloatFree) : Transport.schema.FloatFree t := by
  cases t with
  | graphQl settings => simpa [FloatFree, schema, variants, GraphQlTransport.record] using h
  | custom settings => simpa [FloatFree, schema, variants, CustomTransport.record] using h
  | _ =>
    simp [Transport.schema, Transport.variants, RestTransport.record, SoapTransport.record, JdbcTransport.record,
      KafkaTransport.record, MqttTransport.record, SftpTransport.record, FsTransport.record]

theorem StepKind.floatFree_schema {k : StepKind} (h : k.FloatFree) : StepKind.schema.FloatFree k := by
  cases k with
  | throttle settings => exact h.elim
  | connector settings => simpa [FloatFree, schema, variants, ConnectorStep.record] using h
  | _ =>
    simp [StepKind.schema, StepKind.variants, MapStep.record, ScriptStep.record, EnrichStep.record, BranchStep.record,
      BranchCondition.record, RetryStep.record, DlqStep.record, CheckpointStep.record, CircuitBreakerStep.record]

theorem Flow.floatFree_record {flow : Flow} (h : flow.FloatFree) : Flow.record.FloatFree flow := by
  have hsteps : ∀ step ∈ flow.steps, Step.record.FloatFree step := fun step hstep => by
    have haction := StepKind.floatFree_schema (h.action step hstep)
    have htransport : ∀ t ∈ step.transport, Transport.schema.FloatFree t := fun t ht =>
      Transport.floatFree_schema (h.transport step hstep t ht)
    have hpolicies : ∀ p ∈ step.policies, Policy.schema.FloatFree p := fun p _ => p.floatFree_schema
    simpa [Step.record] using And.intro haction ⟨htransport, hpolicies⟩
  have htriggers : ∀ t ∈ flow.triggers, Trigger.schema.FloatFree t := fun t _ => t.floatFree_schema
  have hobservability : ∀ o ∈ flow.observability, Observability.record.FloatFree o := fun o ho => by
    rw [h.observability] at ho
    cases ho
  exact ⟨flow.metadata.floatFree_record, htriggers, hsteps, hobservability, trivial⟩

end FlowCheck
