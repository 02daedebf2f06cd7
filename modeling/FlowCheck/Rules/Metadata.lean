import FlowCheck.Model.Metadata
import FlowCheck.Rules.Basic
import FlowCheck.SemanticVersion

/-!
# Rules on metadata

An e-mail address is a name and a domain around one `@`, without blanks; the domain has a point that is neither its
first nor its last character (`isEmail`).
-/

namespace FlowCheck.Rules

/-- The domain has a point with a character on either side. -/
def hasInnerPoint (domain : List Char) : Bool :=
  (domain.drop 1).dropLast.contains '.'

/-- The text has the form of an e-mail address. -/
def isEmail (cs : List Char) : Bool :=
  let name := cs.takeWhile (· != '@')
  let domain := (cs.dropWhile (· != '@')).drop 1
  !name.isEmpty && !cs.any Text.isBlank && cs.count '@' == 1 && hasInnerPoint domain

def owner (i : Nat) (o : Owner) : List Finding :=
  Finding.when (!isEmail (Text.trim o.email).toList)
    (.warning ((((Path.mk "metadata" []).field "owners").index i).field "email") .ownerEmailInvalid
      s!"owner '{o.name}' has an invalid email '{o.email}'")

def version (text : String) : List Finding :=
  match SemanticVersion.check (Text.trim text) with
  | .ok () => []
  | .error fault =>
    [.error ((Path.mk "metadata" []).field "version") .metadataVersionInvalid
      (s!"version '{text}' is not a semantic version: " ++ fault.message)]

/-- The findings on the metadata of a flow. -/
def metadata (m : Metadata) : List Finding :=
  let path : Path := .mk "metadata" []
  requireText path "name" .metadataNameMissing "flow name must not be empty" m.name ++
  version m.version ++
  Finding.when m.owners.isEmpty (.warning (path.field "owners") .ownersMissing "flow has no owners") ++
  (m.owners.mapIdx owner).flatten ++
  Finding.when (m.compliance.any fun c => c.requiresRetention && c.dataRetention.isNone)
    (.warning ((path.field "compliance").field "dataRetention") .complianceDataRetentionMissing
      "GDPR or HIPAA flows should declare a data retention period") ++
  Finding.when (m.isHipaa && m.roles.isEmpty)
    (.error ((path.field "rbac").field "roles") .hipaaRbacRequired
      "HIPAA flows must declare at least one RBAC role")

end FlowCheck.Rules
