import FlowCheck.Schema.Basic

/-!
# Policies

Constraints attached to a step: quality of service, idempotency, mutual authentication, authorisation, secrets.
-/

namespace FlowCheck

inductive Priority where
  | low
  | normal
  | high
  deriving DecidableEq

inductive DeliveryGuarantee where
  | atMostOnce
  | atLeastOnce
  | exactlyOnce
  deriving DecidableEq

structure QosPolicy where
  /-- Milliseconds. -/
  timeout : Option UInt64
  priority : Option Priority
  guarantee : Option DeliveryGuarantee
  deriving DecidableEq

structure IdempotencyPolicy where
  keyExpression : String
  /-- Seconds for which a key is remembered. -/
  ttl : Option UInt64
  deriving DecidableEq

structure MtlsPolicy where
  certPath : String
  keyPath : String
  caPath : Option String
  deriving DecidableEq

structure OpaPolicy where
  policyRef : String
  decision : Option String
  deriving DecidableEq

structure SecretsPolicy where
  vaultPaths : List String
  /-- Seconds between refreshes. -/
  refreshInterval : Option UInt64
  deriving DecidableEq

/-- A constraint on a step that is not about its function. -/
inductive Policy where
  | qos (settings : QosPolicy)
  | idempotency (settings : IdempotencyPolicy)
  | mtls (settings : MtlsPolicy)
  | opa (settings : OpaPolicy)
  | secrets (settings : SecretsPolicy)
  deriving DecidableEq

/-- The tag that the variant is written with. -/
def Policy.kind : Policy → String
  | .qos _ => "qos"
  | .idempotency _ => "idempotency"
  | .mtls _ => "mtls"
  | .opa _ => "opa"
  | .secrets _ => "secrets"

/-! ## Schemas -/

def Priority.choices : Choices Priority where
  values := [.low, .normal, .high]
  name
    | .low => "low"
    | .normal => "normal"
    | .high => "high"
  find_name a := by cases a <;> rfl

def DeliveryGuarantee.choices : Choices DeliveryGuarantee where
  values := [.atMostOnce, .atLeastOnce, .exactlyOnce]
  name
    | .atMostOnce => "atMostOnce"
    | .atLeastOnce => "atLeastOnce"
    | .exactlyOnce => "exactlyOnce"
  find_name a := by cases a <;> rfl

def QosPolicy.record : Record QosPolicy :=
  .of "QosPolicy"
    (.cons (.optional "timeout" (.unsigned .w64)) <|
      .cons (.optional "priority" (.choice Priority.choices)) <|
      .cons (.optional "guarantee" (.choice DeliveryGuarantee.choices)) .nil)
    (fun (timeout, priority, guarantee, ()) => { timeout, priority, guarantee })
    (fun q => (q.timeout, q.priority, q.guarantee, ()))
    (fun _ => rfl) (fun _ => rfl)

def IdempotencyPolicy.record : Record IdempotencyPolicy :=
  .of "IdempotencyPolicy"
    (.cons (.required "keyExpression" .string) <|
      .cons (.optional "ttl" (.unsigned .w64)) .nil)
    (fun (keyExpression, ttl, ()) => { keyExpression, ttl })
    (fun i => (i.keyExpression, i.ttl, ()))
    (fun _ => rfl) (fun _ => rfl)

def MtlsPolicy.record : Record MtlsPolicy :=
  .of "MtlsPolicy"
    (.cons (.required "certPath" .string) <|
      .cons (.required "keyPath" .string) <|
      .cons (.optional "caPath" .string) .nil)
    (fun (certPath, keyPath, caPath, ()) => { certPath, keyPath, caPath })
    (fun m => (m.certPath, m.keyPath, m.caPath, ()))
    (fun _ => rfl) (fun _ => rfl)

def OpaPolicy.record : Record OpaPolicy :=
  .of "OpaPolicy"
    (.cons (.required "policyRef" .string) <|
      .cons (.optional "decision" .string) .nil)
    (fun (policyRef, decision, ()) => { policyRef, decision })
    (fun o => (o.policyRef, o.decision, ()))
    (fun _ => rfl) (fun _ => rfl)

def SecretsPolicy.record : Record SecretsPolicy :=
  .of "SecretsPolicy"
    (.cons (.required "vaultPaths" (.list .string)) <|
      .cons (.optional "refreshInterval" (.unsigned .w64)) .nil)
    (fun (vaultPaths, refreshInterval, ()) => { vaultPaths, refreshInterval })
    (fun s => (s.vaultPaths, s.refreshInterval, ()))
    (fun _ => rfl) (fun _ => rfl)

def Policy.variants :
    Variants (QosPolicy ⊕ IdempotencyPolicy ⊕ MtlsPolicy ⊕ OpaPolicy ⊕ SecretsPolicy ⊕ Empty) :=
  .cons "qos" [] QosPolicy.record <|
  .cons "idempotency" [] IdempotencyPolicy.record <|
  .cons "mtls" [] MtlsPolicy.record <|
  .cons "opa" [] OpaPolicy.record <|
  .cons "secrets" [] SecretsPolicy.record .nil

def Policy.schema : Schema Policy :=
  .tagged "Policy" Policy.variants
    (Sum.elim .qos <|
      Sum.elim .idempotency <|
      Sum.elim .mtls <|
      Sum.elim .opa <|
      Sum.elim .secrets nofun)
    (fun
      | .qos a => .inl a
      | .idempotency a => .inr (.inl a)
      | .mtls a => .inr (.inr (.inl a))
      | .opa a => .inr (.inr (.inr (.inl a)))
      | .secrets a => .inr (.inr (.inr (.inr (.inl a)))))
    (fun a => by cases a <;> rfl)
    (by rintro (_ | _ | _ | _ | _ | ⟨⟨⟩⟩) <;> rfl)

end FlowCheck
