import FlowCheck.Model.Flow
import FlowCheck.Rules.Basic

/-!
# Rules on policies
-/

namespace FlowCheck.Rules

/-- The findings on one policy. -/
def policy (path : Path) : Policy → List Finding
  | .qos p => requirePositive path "timeout" .qosTimeoutInvalid (p.timeout == some 0)
  | .idempotency p =>
    requireText path "keyExpression" .idempotencyKeyMissing "idempotency policy requires a key expression"
      p.keyExpression ++
    requirePositive path "ttl" .idempotencyTtlInvalid (p.ttl == some 0)
  | .mtls p =>
    requireText path "certPath" .mtlsCertPathMissing "mtls policy requires a certificate path" p.certPath ++
    requireText path "keyPath" .mtlsKeyPathMissing "mtls policy requires a key path" p.keyPath
  | .opa p =>
    requireText path "policyRef" .opaPolicyRefMissing "opa policy requires a policy reference" p.policyRef
  | .secrets p =>
    requireSome path "vaultPaths" .secretsVaultPathsMissing "secrets policy requires at least one vault path"
      p.vaultPaths ++
    requirePositive path "refreshInterval" .secretsRefreshIntervalInvalid (p.refreshInterval == some 0)

/-- The findings on the policies of all steps. -/
def policies (flow : Flow) : List Finding :=
  (flow.steps.mapIdx fun i step =>
    (step.policies.mapIdx fun j p =>
      policy ((((Path.mk "steps" []).index i).field "policies").index j) p).flatten).flatten

end FlowCheck.Rules
