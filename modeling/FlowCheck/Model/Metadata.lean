import FlowCheck.Schema.Basic

/-!
# Metadata

Ownership, versioning and governance of a flow.
-/

namespace FlowCheck

/-- A person or team that answers for a flow. -/
structure Owner where
  name : String
  email : String
  team : Option String
  role : Option String
  deriving DecidableEq

inductive DataClassification where
  | publicData
  | internalData
  | confidential
  | restricted
  deriving DecidableEq

/-- Regulatory regimes that apply to the data of a flow. -/
structure Compliance where
  gdpr : Bool
  hipaa : Bool
  soc2 : Bool
  pci : Bool
  /-- Retention period in days. -/
  dataRetention : Option UInt32
  classification : Option DataClassification
  deriving DecidableEq

/-- Role-based access control. -/
structure Rbac where
  roles : List String
  permissions : List String
  tenants : List String
  deriving DecidableEq

structure Metadata where
  name : String
  /-- Semantic version of the flow definition. -/
  version : String
  description : Option String
  tenant : Option String
  tags : List String
  owners : List Owner
  compliance : Option Compliance
  rbac : Option Rbac
  deriving DecidableEq

/-- The declared regimes demand an explicit retention period. -/
def Compliance.requiresRetention (compliance : Compliance) : Bool :=
  compliance.gdpr || compliance.hipaa

namespace Metadata

/-- HIPAA handling is declared. -/
def isHipaa (metadata : Metadata) : Bool :=
  metadata.compliance.any (·.hipaa)

/-- The declared roles; none without access control. -/
def roles (metadata : Metadata) : List String :=
  (metadata.rbac.map (·.roles)).getD []

end Metadata

/-! ## Schemas -/

def Owner.record : Record Owner :=
  .of "Owner"
    (.cons (.required "name" .string) <|
      .cons (.required "email" .string) <|
      .cons (.optional "team" .string) <|
      .cons (.optional "role" .string) .nil)
    (fun (name, email, team, role, ()) => { name, email, team, role })
    (fun o => (o.name, o.email, o.team, o.role, ()))
    (fun _ => rfl) (fun _ => rfl)

def DataClassification.choices : Choices DataClassification where
  values := [.publicData, .internalData, .confidential, .restricted]
  name
    | .publicData => "public"
    | .internalData => "internal"
    | .confidential => "confidential"
    | .restricted => "restricted"
  find_name a := by cases a <;> rfl

def Compliance.record : Record Compliance :=
  .of "Compliance"
    (.cons (.withDefault "gdpr" .bool false) <|
      .cons (.withDefault "hipaa" .bool false) <|
      .cons (.withDefault "soc2" .bool false) <|
      .cons (.withDefault "pci" .bool false) <|
      .cons (.optional "dataRetention" (.unsigned .w32)) <|
      .cons (.optional "classification" (.choice DataClassification.choices)) .nil)
    (fun (gdpr, hipaa, soc2, pci, dataRetention, classification, ()) =>
      { gdpr, hipaa, soc2, pci, dataRetention, classification })
    (fun c => (c.gdpr, c.hipaa, c.soc2, c.pci, c.dataRetention, c.classification, ()))
    (fun _ => rfl) (fun _ => rfl)

def Rbac.record : Record Rbac :=
  .of "Rbac"
    (.cons (.withDefault "roles" (.list .string) []) <|
      .cons (.withDefault "permissions" (.list .string) []) <|
      .cons (.withDefault "tenants" (.list .string) []) .nil)
    (fun (roles, permissions, tenants, ()) => { roles, permissions, tenants })
    (fun r => (r.roles, r.permissions, r.tenants, ()))
    (fun _ => rfl) (fun _ => rfl)

def Metadata.record : Record Metadata :=
  .of "Metadata"
    (.cons (.required "name" .string) <|
      .cons (.required "version" .string) <|
      .cons (.optional "description" .string) <|
      .cons (.optional "tenant" .string) <|
      .cons (.withDefault "tags" (.list .string) []) <|
      .cons (.withDefault "owners" (.list (.record Owner.record)) []) <|
      .cons (.optional "compliance" (.record Compliance.record)) <|
      .cons (.optional "rbac" (.record Rbac.record)) .nil)
    (fun (name, version, description, tenant, tags, owners, compliance, rbac, ()) =>
      { name, version, description, tenant, tags, owners, compliance, rbac })
    (fun m => (m.name, m.version, m.description, m.tenant, m.tags, m.owners, m.compliance, m.rbac, ()))
    (fun _ => rfl) (fun _ => rfl)

end FlowCheck
