import FlowCheck.Finding.Basic
import FlowCheck.Model.Observability

/-!
# Rules on observability
-/

namespace FlowCheck.Rules

/-- The number lies between zero and one. -/
def isUnitRate (rate : Double) : Bool :=
  (Double.zero false).le rate && rate.units ≤ Double.twoTo 1074

def unitRate (path : Path) (field : String) (code : Code) (what : String) (rate : Double) : List Finding :=
  Finding.when (!isUnitRate rate)
    (.error (path.field field) code
      (what ++ " must be between 0 and 1, got " ++ DecimalStyle.plain.text rate))

def payloadSampling (path : Path) (sampling : PayloadSampling) : List Finding :=
  unitRate path "rate" .observabilityPayloadSampleRateInvalid "payload sample rate" sampling.rate ++
  Finding.when (sampling.maxSize == some 0)
    (.error (path.field "maxSize") .observabilityPayloadMaxSizeInvalid
      "payload max size must be greater than 0")

/-- The findings on the observability of a flow. -/
def observability (o : Observability) : List Finding :=
  let path : Path := .mk "observability" []
  unitRate path "sampleRate" .observabilitySampleRateInvalid "sample rate" o.sampleRate ++
  (o.payloadSampling.toList.map (payloadSampling (path.field "payloadSampling"))).flatten

end FlowCheck.Rules
