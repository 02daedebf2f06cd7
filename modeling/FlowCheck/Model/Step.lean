import FlowCheck.Model.Policy
import FlowCheck.Model.Transport
import FlowCheck.Text.Blank

/-!
# Steps

A step is one unit of processing.  Its routes name other steps: the entries of `next`, the targets of a branch and the
step that handles failures.  `successors` are the routes of the success path.
-/

namespace FlowCheck

inductive ScriptLanguage where
  | javascript
  | python
  | jsonata
  deriving DecidableEq

inductive Backoff where
  | fixed
  | linear
  | exponential
  deriving DecidableEq

structure ConnectorStep where
  /-- Name of a connector registered outside the flow. -/
  connectorRef : String
  operation : String
  config : Option Value
  /-- Milliseconds. -/
  timeout : Option UInt64
  deriving DecidableEq

structure MapStep where
  expression : String
  target : Option String
  deriving DecidableEq

structure ScriptStep where
  code : String
  language : ScriptLanguage
  timeout : Option UInt64
  deriving DecidableEq

structure EnrichStep where
  source : String
  key : String
  target : Option String
  cache : Bool
  deriving DecidableEq

structure BranchCondition where
  condition : String
  target : String
  deriving DecidableEq

structure BranchStep where
  conditions : List BranchCondition
  /-- Route taken when no condition holds. -/
  fallback : Option String
  deriving DecidableEq

structure RetryStep where
  maxAttempts : UInt32
  backoff : Backoff
  initialDelay : Option UInt64
  maxDelay : Option UInt64
  deriving DecidableEq

structure DlqStep where
  reason : String
  topic : Option String
  deriving DecidableEq

structure ThrottleStep where
  /-- Messages per second. -/
  rate : Double
  burst : Option UInt32
  deriving DecidableEq

structure CheckpointStep where
  name : String
  storage : Option String
  deriving DecidableEq

structure CircuitBreakerStep where
  failureThreshold : UInt32
  /-- Milliseconds before a trial request. -/
  recoveryTimeout : UInt64
  halfOpenRequests : Option UInt32
  deriving DecidableEq

/-- What a step does. -/
inductive StepKind where
  | connector (settings : ConnectorStep)
  | map (settings : MapStep)
  | script (settings : ScriptStep)
  | enrich (settings : EnrichStep)
  | branch (settings : BranchStep)
  | retry (settings : RetryStep)
  | dlq (settings : DlqStep)
  | throttle (settings : ThrottleStep)
  | checkpoint (settings : CheckpointStep)
  | circuitBreaker (settings : CircuitBreakerStep)
  deriving DecidableEq

/-- One unit of processing. -/
structure Step where
  id : String
  name : String
  description : Option String
  /-- What the step does. -/
  action : StepKind
  transport : Option Transport
  policies : List Policy
  /-- Identifiers of the steps that follow. -/
  next : List String
  /-- Identifier of the step that handles failures of this one. -/
  error : Option String
  deriving DecidableEq

/-- The tag that the variant is written with. -/
def StepKind.kind : StepKind → String
  | .connector _ => "connector"
  | .map _ => "map"
  | .script _ => "script"
  | .enrich _ => "enrich"
  | .branch _ => "branch"
  | .retry _ => "retry"
  | .dlq _ => "dlq"
  | .throttle _ => "throttle"
  | .checkpoint _ => "checkpoint"
  | .circuitBreaker _ => "circuitBreaker"

/-- The conditions of a branch in order, then its fallback; blank targets are no routes. -/
def StepKind.branchTargets : StepKind → List String
  | .branch settings =>
    (settings.conditions.map (·.target) ++ settings.fallback.toList).filter (!Text.blank ·)
  | _ => []

/-- The identifiers that a step routes to when it succeeds, in declaration order. -/
def Step.successors (step : Step) : List String :=
  step.next ++ step.action.branchTargets

/-! ## Schemas -/

def ScriptLanguage.choices : Choices ScriptLanguage where
  values := [.javascript, .python, .jsonata]
  name
    | .javascript => "javascript"
    | .python => "python"
    | .jsonata => "jsonata"
  find_name a := by cases a <;> rfl

def Backoff.choices : Choices Backoff where
  values := [.fixed, .linear, .exponential]
  name
    | .fixed => "fixed"
    | .linear => "linear"
    | .exponential => "exponential"
  find_name a := by cases a <;> rfl

def ConnectorStep.record : Record ConnectorStep :=
  .of "ConnectorStep"
    (.cons (.required "connectorRef" .string) <|
      .cons (.required "operation" .string) <|
      .cons (.optional "config" .free) <|
      .cons (.optional "timeout" (.unsigned .w64)) .nil)
    (fun (connectorRef, operation, config, timeout, ()) => { connectorRef, operation, config, timeout })
    (fun c => (c.connectorRef, c.operation, c.config, c.timeout, ()))
    (fun _ => rfl) (fun _ => rfl)

def MapStep.record : Record MapStep :=
  .of "MapStep"
    (.cons (.required "expression" .string) <|
      .cons (.optional "target" .string) .nil)
    (fun (expression, target, ()) => { expression, target })
    (fun m => (m.expression, m.target, ()))
    (fun _ => rfl) (fun _ => rfl)

def ScriptStep.record : Record ScriptStep :=
  .of "ScriptStep"
    (.cons (.required "code" .string) <|
      .cons (.withDefault "language" (.choice ScriptLanguage.choices) .javascript) <|
      .cons (.optional "timeout" (.unsigned .w64)) .nil)
    (fun (code, language, timeout, ()) => { code, language, timeout })
    (fun s => (s.code, s.language, s.timeout, ()))
    (fun _ => rfl) (fun _ => rfl)

def EnrichStep.record : Record EnrichStep :=
  .of "EnrichStep"
    (.cons (.required "source" .string) <|
      .cons (.required "key" .string) <|
      .cons (.optional "target" .string) <|
      .cons (.withDefault "cache" .bool false) .nil)
    (fun (source, key, target, cache, ()) => { source, key, target, cache })
    (fun e => (e.source, e.key, e.target, e.cache, ()))
    (fun _ => rfl) (fun _ => rfl)

def BranchCondition.record : Record BranchCondition :=
  .of "BranchCondition"
    (.cons (.required "condition" .string) <|
      .cons (.required "target" .string) .nil)
    (fun (condition, target, ()) => { condition, target })
    (fun b => (b.condition, b.target, ()))
    (fun _ => rfl) (fun _ => rfl)

def BranchStep.record : Record BranchStep :=
  .of "BranchStep"
    (.cons (.required "conditions" (.list (.record BranchCondition.record))) <|
      .cons (.optional "default" .string) .nil)
    (fun (conditions, fallback, ()) => { conditions, fallback })
    (fun b => (b.conditions, b.fallback, ()))
    (fun _ => rfl) (fun _ => rfl)

def RetryStep.record : Record RetryStep :=
  .of "RetryStep"
    (.cons (.required "maxAttempts" (.unsigned .w32)) <|
      .cons (.withDefault "backoff" (.choice Backoff.choices) .exponential) <|
      .cons (.optional "initialDelay" (.unsigned .w64)) <|
      .cons (.optional "maxDelay" (.unsigned .w64)) .nil)
    (fun (maxAttempts, backoff, initialDelay, maxDelay, ()) =>
      { maxAttempts, backoff, initialDelay, maxDelay })
    (fun r => (r.maxAttempts, r.backoff, r.initialDelay, r.maxDelay, ()))
    (fun _ => rfl) (fun _ => rfl)

def DlqStep.record : Record DlqStep :=
  .of "DlqStep"
    (.cons (.required "reason" .string) <|
      .cons (.optional "topic" .string) .nil)
    (fun (reason, topic, ()) => { reason, topic })
    (fun d => (d.reason, d.topic, ()))
    (fun _ => rfl) (fun _ => rfl)

def ThrottleStep.record : Record ThrottleStep :=
  .of "ThrottleStep"
    (.cons (.required "rate" .number) <|
      .cons (.optional "burst" (.unsigned .w32)) .nil)
    (fun (rate, burst, ()) => { rate, burst })
    (fun t => (t.rate, t.burst, ()))
    (fun _ => rfl) (fun _ => rfl)

def CheckpointStep.record : Record CheckpointStep :=
  .of "CheckpointStep"
    (.cons (.required "name" .string) <|
      .cons (.optional "storage" .string) .nil)
    (fun (name, storage, ()) => { name, storage })
    (fun c => (c.name, c.storage, ()))
    (fun _ => rfl) (fun _ => rfl)

def CircuitBreakerStep.record : Record CircuitBreakerStep :=
  .of "CircuitBreakerStep"
    (.cons (.required "failureThreshold" (.unsigned .w32)) <|
      .cons (.required "recoveryTimeout" (.unsigned .w64)) <|
      .cons (.optional "halfOpenRequests" (.unsigned .w32)) .nil)
    (fun (failureThreshold, recoveryTimeout, halfOpenRequests, ()) =>
      { failureThreshold, recoveryTimeout, halfOpenRequests })
    (fun c => (c.failureThreshold, c.recoveryTimeout, c.halfOpenRequests, ()))
    (fun _ => rfl) (fun _ => rfl)

def StepKind.variants :
    Variants (ConnectorStep ⊕ MapStep ⊕ ScriptStep ⊕ EnrichStep ⊕ BranchStep ⊕ RetryStep ⊕ DlqStep ⊕
      ThrottleStep ⊕ CheckpointStep ⊕ CircuitBreakerStep ⊕ Empty) :=
  .cons "connector" [] ConnectorStep.record <|
  .cons "map" [] MapStep.record <|
  .cons "script" [] ScriptStep.record <|
  .cons "enrich" [] EnrichStep.record <|
  .cons "branch" [] BranchStep.record <|
  .cons "retry" [] RetryStep.record <|
  .cons "dlq" [] DlqStep.record <|
  .cons "throttle" [] ThrottleStep.record <|
  .cons "checkpoint" [] CheckpointStep.record <|
  .cons "circuitBreaker" ["circuit-breaker", "circuit_breaker"] CircuitBreakerStep.record .nil

def StepKind.schema : Schema StepKind :=
  .tagged "StepKind" StepKind.variants
    (Sum.elim .connector <|
      Sum.elim .map <|
      Sum.elim .script <|
      Sum.elim .enrich <|
      Sum.elim .branch <|
      Sum.elim .retry <|
      Sum.elim .dlq <|
      Sum.elim .throttle <|
      Sum.elim .checkpoint <|
      Sum.elim .circuitBreaker nofun)
    (fun
      | .connector a => .inl a
      | .map a => .inr (.inl a)
      | .script a => .inr (.inr (.inl a))
      | .enrich a => .inr (.inr (.inr (.inl a)))
      | .branch a => .inr (.inr (.inr (.inr (.inl a))))
      | .retry a => .inr (.inr (.inr (.inr (.inr (.inl a)))))
      | .dlq a => .inr (.inr (.inr (.inr (.inr (.inr (.inl a))))))
      | .throttle a => .inr (.inr (.inr (.inr (.inr (.inr (.inr (.inl a)))))))
      | .checkpoint a => .inr (.inr (.inr (.inr (.inr (.inr (.inr (.inr (.inl a))))))))
      | .circuitBreaker a => .inr (.inr (.inr (.inr (.inr (.inr (.inr (.inr (.inr (.inl a))))))))))
    (fun a => by cases a <;> rfl)
    (by rintro (_ | _ | _ | _ | _ | _ | _ | _ | _ | _ | ⟨⟨⟩⟩) <;> rfl)

def Step.record : Record Step :=
  .of "Step"
    (.cons (.required "id" .string) <|
      .cons (.required "name" .string) <|
      .cons (.optional "description" .string) <|
      .cons (.required "step" StepKind.schema) <|
      .cons (.optional "transport" Transport.schema) <|
      .cons (.withDefault "policies" (.list Policy.schema) []) <|
      .cons (.withDefault "next" (.list .string) []) <|
      .cons (.optional "error" .string) .nil)
    (fun (id, name, description, action, transport, policies, next, error, ()) =>
      { id, name, description, action, transport, policies, next, error })
    (fun s => (s.id, s.name, s.description, s.action, s.transport, s.policies, s.next, s.error, ()))
    (fun _ => rfl) (fun _ => rfl)

end FlowCheck
