import FlowCheck.Limits
import FlowCheck.Settings.Rules

/-!
# Configurations

A configuration has rule settings and limits.  It is sound when no limit is zero and every suppressed code is one that
may be suppressed.
-/

namespace FlowCheck

structure ValidatorConfig where
  rules : RuleSettings := {}
  limits : InputLimits := {}
  deriving DecidableEq

namespace ValidatorConfig

/-- How configurations are written. -/
def record : Record ValidatorConfig :=
  .of "ValidatorConfig"
    (.cons (.withDefault "rules" (.record RuleSettings.record) {}) <|
      .cons (.withDefault "limits" (.record InputLimits.record) {}) .nil)
    (fun (rules, limits, ()) => { rules, limits })
    (fun c => (c.rules, c.limits, ()))
    (fun _ => rfl) (fun _ => rfl)

/-- The limits by name. -/
def bounds (config : ValidatorConfig) : List (String × UInt64) :=
  [("max_input_bytes", config.limits.maxInputBytes), ("max_nesting_depth", config.limits.maxNestingDepth),
    ("max_steps", config.limits.maxSteps), ("max_triggers", config.limits.maxTriggers),
    ("max_policies_per_step", config.limits.maxPoliciesPerStep)]

/-- What is wrong with a suppressed code. -/
def disabledFault? (code : String) : Option String :=
  if !Code.isKnown code then some ("rules.disabled names unknown finding code " ++ code)
  else if !Code.isSuppressible code then some ("rules.disabled cannot suppress " ++ code)
  else none

/-- What is wrong with a configuration: limits come before suppressed codes. -/
def fault? (config : ValidatorConfig) : Option String :=
  (config.bounds.findSome? fun bound =>
    if bound.2 = 0 then some s!"limits.{bound.1} must be greater than zero" else none).or
  (config.rules.disabled.findSome? disabledFault?)

/-- Accepts sound configurations. -/
def check (config : ValidatorConfig) : Except AppError Unit :=
  match config.fault? with
  | none => .ok ()
  | some message => .error { category := .configuration, message }

end ValidatorConfig

end FlowCheck
