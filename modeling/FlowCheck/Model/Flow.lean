import FlowCheck.Model.Metadata
import FlowCheck.Model.Observability
import FlowCheck.Model.Step
import FlowCheck.Model.Trigger

/-!
# Flows

The root of a flow document: who owns it, what starts it, and the steps it runs.
-/

namespace FlowCheck

structure Flow where
  metadata : Metadata
  triggers : List Trigger
  steps : List Step
  observability : Option Observability
  deriving DecidableEq

def Flow.record : Record Flow :=
  .of "Flow"
    (.cons (.required "metadata" (.record Metadata.record)) <|
      .cons (.withDefault "triggers" (.list Trigger.schema) []) <|
      .cons (.required "steps" (.list (.record Step.record))) <|
      .cons (.optional "observability" (.record Observability.record)) .nil)
    (fun (metadata, triggers, steps, observability, ()) => { metadata, triggers, steps, observability })
    (fun f => (f.metadata, f.triggers, f.steps, f.observability, ()))
    (fun _ => rfl) (fun _ => rfl)

/-- The step with an identifier; the first one if there are several. -/
def Flow.step? (flow : Flow) (id : String) : Option Step :=
  flow.steps.find? (·.id == id)

end FlowCheck
