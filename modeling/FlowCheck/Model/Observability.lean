import FlowCheck.Schema.Basic

/-!
# Observability

Tracing, sampling and metrics of a flow.
-/

namespace FlowCheck

inductive TracePropagation where
  | w3c
  | b3
  | jaeger
  deriving DecidableEq

/-- Which payloads are captured. -/
structure PayloadSampling where
  rate : Double
  /-- Largest captured payload in bytes. -/
  maxSize : Option UInt64
  deriving DecidableEq

structure Observability where
  traceId : Option String
  propagation : TracePropagation
  /-- Fraction of executions that are traced. -/
  sampleRate : Double
  payloadSampling : Option PayloadSampling
  metrics : Bool
  logs : Bool
  deriving DecidableEq

/-! ## Schemas -/

def TracePropagation.choices : Choices TracePropagation where
  values := [.w3c, .b3, .jaeger]
  name
    | .w3c => "w3c"
    | .b3 => "b3"
    | .jaeger => "jaeger"
  find_name a := by cases a <;> rfl

def PayloadSampling.record : Record PayloadSampling :=
  .of "PayloadSampling"
    (.cons (.required "rate" .number) <|
      .cons (.optional "maxSize" (.unsigned .w64)) .nil)
    (fun (rate, maxSize, ()) => { rate, maxSize })
    (fun p => (p.rate, p.maxSize, ()))
    (fun _ => rfl) (fun _ => rfl)

def Observability.record : Record Observability :=
  .of "Observability"
    (.cons (.optional "traceId" .string) <|
      .cons (.withDefault "propagation" (.choice TracePropagation.choices) .w3c) <|
      .cons (.required "sampleRate" .number) <|
      .cons (.optional "payloadSampling" (.record PayloadSampling.record)) <|
      .cons (.withDefault "metrics" .bool true) <|
      .cons (.withDefault "logs" .bool true) .nil)
    (fun (traceId, propagation, sampleRate, payloadSampling, metrics, logs, ()) =>
      { traceId, propagation, sampleRate, payloadSampling, metrics, logs })
    (fun o => (o.traceId, o.propagation, o.sampleRate, o.payloadSampling, o.metrics, o.logs, ()))
    (fun _ => rfl) (fun _ => rfl)

end FlowCheck
