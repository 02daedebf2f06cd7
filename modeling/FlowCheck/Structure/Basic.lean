import FlowCheck.Finding.Basic
import FlowCheck.Model.Flow
import FlowCheck.Schema.Decode
import FlowCheck.Structure.Blame

/-!
# The structure of a document

`Structure.check` turns a tree into a flow, or reports why it is none.  Metadata, each trigger, each step and the
observability are read on their own, and inside them the parts that could hide each other, so that a fault in one
element does not hide faults in its siblings.  A container is read as a whole only when its parts are sound, and the
document only when all containers are.
-/

namespace FlowCheck.Structure

/-- The finding for a tree at a path that does not conform; without a path it is the document itself. -/
def mismatchFinding (path : Option Path) (v : Value) (mismatch : Mismatch) : Finding :=
  let message := mismatch.message
  match path, blamedField v message with
  | some path, some field => .schema (path.field field).text message
  | some path, none => .schema path.text message
  | none, some field => if field.isEmpty then .schemaRoot message else .schema field message
  | none, none => .schemaRoot message

/-- The reason, if there is one, why the tree at a path does not conform to a schema. -/
def conformance {α : Type} (schema : Schema α) (path : Path) (v : Value) : List Finding :=
  match schema.decode .direct v with
  | .ok _ => []
  | .error mismatch => [mismatchFinding (some path) v mismatch]

/-- The findings of the parts or, if there are none, of the whole. -/
def partsFirst (parts whole : List Finding) : List Finding :=
  if parts.isEmpty then whole else parts

/-- The findings on the elements of a list, or that the tree is none. -/
def elements (path : Path) (v : Value) (check : Path → Value → List Finding) : List Finding :=
  match v with
  | .list items => (items.mapIdx fun i item => check (path.index i) item).flatten
  | v => [.schema path.text ("expected a list, found " ++ v.describe)]

/-- The findings on the fields of a mapping, or that the tree is none. -/
def mapping (path : Path) (v : Value) (check : List (String × Value) → List Finding) : List Finding :=
  match v with
  | .object fields => check fields
  | v => [.schema path.text ("expected a mapping, found " ++ v.describe)]

/-- The findings on a field that is there. -/
def present (fields : List (String × Value)) (name : String) (check : Value → List Finding) : List Finding :=
  match fields.lookup name with
  | some v => check v
  | none => []

/-- The findings on a field that is there and not null. -/
def given (fields : List (String × Value)) (name : String) (check : Value → List Finding) : List Finding :=
  present fields name fun v => if v.isNull then [] else check v

/-- The fields of a mapping that has the given tag; none of any other tree. -/
def taggedFields (tag : String) (v : Value) : List (String × Value) :=
  match v with
  | .object fields => if (fields.lookup tagField).bind Value.asString? == some tag then fields else []
  | _ => []

def metadata (v : Value) : List Finding :=
  let path : Path := .mk "metadata" []
  mapping path v fun fields =>
    partsFirst
      (present fields "owners" (elements (path.field "owners") · (conformance (.record Owner.record))) ++
        given fields "compliance" (conformance (.record Compliance.record) (path.field "compliance")) ++
        given fields "rbac" (conformance (.record Rbac.record) (path.field "rbac")))
      (conformance (.record Metadata.record) path v)

def trigger (path : Path) (v : Value) : List Finding :=
  let http := taggedFields "http" v
  partsFirst
    (given http "auth" (conformance (.record HttpAuth.record) (path.field "auth")) ++
      given http "rateLimit" (conformance (.record RateLimit.record) (path.field "rateLimit")))
    (conformance Trigger.schema path v)

def stepKind (path : Path) (v : Value) : List Finding :=
  partsFirst
    (present (taggedFields "branch" v) "conditions"
      (elements (path.field "conditions") · (conformance (.record BranchCondition.record))))
    (conformance StepKind.schema path v)

def step (path : Path) (v : Value) : List Finding :=
  mapping path v fun fields =>
    partsFirst
      (present fields "step" (stepKind (path.field "step")) ++
        given fields "transport" (conformance Transport.schema (path.field "transport")) ++
        present fields "policies" (elements (path.field "policies") · (conformance Policy.schema)))
      (conformance (.record Step.record) path v)

def observability (v : Value) : List Finding :=
  let path : Path := .mk "observability" []
  mapping path v fun fields =>
    partsFirst
      (given fields "payloadSampling" (conformance (.record PayloadSampling.record) (path.field "payloadSampling")))
      (conformance (.record Observability.record) path v)

/-- The findings on a field that must be there. -/
def demanded (fields : List (String × Value)) (name : String) (check : Value → List Finding) : List Finding :=
  match fields.lookup name with
  | some v => check v
  | none => [.schema name s!"missing field `{name}`"]

/-- The findings on the parts of a document. -/
def parts (fields : List (String × Value)) : List Finding :=
  demanded fields "metadata" metadata ++
    present fields "triggers" (elements (.mk "triggers" []) · trigger) ++
    demanded fields "steps" (elements (.mk "steps" []) · step) ++
    given fields "observability" observability

/-- What the schema does not say: a flow has steps. -/
def shape (flow : Flow) : List Finding :=
  if flow.steps.isEmpty then [.schema "steps" "flow must define at least one step"] else []

/-- The flow that a document describes, or the findings on a document that describes none. -/
def check (tree : Value) : Except (List Finding) Flow :=
  match tree with
  | .object fields =>
    let findings := parts fields
    if !findings.isEmpty then .error findings
    else
      match Record.decode .direct Flow.record tree with
      | .error mismatch => .error [mismatchFinding none tree mismatch]
      | .ok flow => if (shape flow).isEmpty then .ok flow else .error (shape flow)
  | tree => .error [.schemaRoot ("flow document must be a mapping, found " ++ tree.describe)]

end FlowCheck.Structure
