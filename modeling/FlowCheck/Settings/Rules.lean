import FlowCheck.Finding.Basic
import FlowCheck.Schema.Basic
import FlowCheck.Text.Blank

/-!
# Rule settings

Three rules report at a level of choice, and codes may be suppressed.
-/

namespace FlowCheck

/-- The level at which a rule reports. -/
inductive RuleLevel where
  | allow
  | warn
  | error
  deriving DecidableEq

namespace RuleLevel

def name : RuleLevel → String
  | allow => "allow"
  | warn => "warn"
  | error => "error"

/-- The severity of findings; none for a rule that is switched off. -/
def severity? : RuleLevel → Option Severity
  | allow => none
  | warn => some .warning
  | error => some .error

/-- The level with a name or one of its synonyms, in any case and between blanks. -/
def ofText (text : String) : Except String RuleLevel :=
  let word := Text.lowerAscii (Text.trim text)
  if word = "allow" ∨ word = "off" then .ok allow
  else if word = "warn" ∨ word = "warning" then .ok warn
  else if word = "error" ∨ word = "deny" then .ok error
  else .error s!"unknown rule level '{word}'"

def choices : Choices RuleLevel where
  values := [allow, warn, error]
  name := name
  find_name a := by cases a <;> rfl

end RuleLevel

structure RuleSettings where
  cycles : RuleLevel := .allow
  selfReference : RuleLevel := .error
  unreachableSteps : RuleLevel := .warn
  /-- Names of suppressed codes. -/
  disabled : List String := []
  deriving DecidableEq

/-- How rule settings are written in a configuration. -/
def RuleSettings.record : Record RuleSettings :=
  .of "RuleSettings"
    (.cons (.withDefault "cycles" (.choice RuleLevel.choices) .allow) <|
      .cons (.withDefault "self_reference" (.choice RuleLevel.choices) .error) <|
      .cons (.withDefault "unreachable_steps" (.choice RuleLevel.choices) .warn) <|
      .cons (.withDefault "disabled" (.list .string) []) .nil)
    (fun (cycles, selfReference, unreachableSteps, disabled, ()) =>
      { cycles, selfReference, unreachableSteps, disabled })
    (fun s => (s.cycles, s.selfReference, s.unreachableSteps, s.disabled, ()))
    (fun _ => rfl) (fun _ => rfl)

end FlowCheck
