import FlowCheck.Settings.Config
import FlowCheck.Text.Numeral
import FlowCheck.Toml.Decode
import FlowCheck.Workspace.Basic

/-!
# Loading a configuration

A configuration comes from a file and, where they have a value that can be read, from environment variables, which
overrule the file.  A file that is absent counts as empty.
-/

namespace FlowCheck

namespace ValidatorConfig

/-- The name of the configuration file of a directory. -/
def fileName : String := "flowdsl.toml"

/-- The configuration in a file, if the file is there. -/
def ofFile? (w : Workspace) (path : String) : Except AppError (Option ValidatorConfig) := do
  if !w.pathExists path then return none
  let content ← (w.read path).mapError fun fault =>
    ({ category := .files, message := fault.message } : AppError).withContext "path" path
  let config ← (Toml.decode record content).mapError fun message =>
    ({ category := .configuration, message := "Failed to parse config file " ++ path ++ ": " ++ message } : AppError)
  return some config

/-- What a variable says, if it can be read; otherwise the old value. -/
def overruled {α : Type} (w : Workspace) (read? : String → Option α) (name : String) (old : α) : α :=
  ((w.valueOf? name).bind fun text => read? (Text.trim text)).getD old

/-- The codes in a list with commas. -/
def listedCodes (text : String) : List String :=
  ((text.splitOn ",").map Text.trim).filter (!·.isEmpty)

/-- The rule settings after the variables. -/
def overruleRules (w : Workspace) (rules : RuleSettings) : RuleSettings where
  cycles := overruled w level? "FLOWDSL_RULES_CYCLES" rules.cycles
  selfReference := overruled w level? "FLOWDSL_RULES_SELF_REFERENCE" rules.selfReference
  unreachableSteps := overruled w level? "FLOWDSL_RULES_UNREACHABLE_STEPS" rules.unreachableSteps
  disabled := ((w.valueOf? "FLOWDSL_RULES_DISABLED").map listedCodes).getD rules.disabled
where
  level? (text : String) : Option RuleLevel := (RuleLevel.ofText text).toOption

/-- The limits after the variables. -/
def overruleLimits (w : Workspace) (limits : InputLimits) : InputLimits where
  maxInputBytes := overruled w Text.word64? "FLOWDSL_LIMITS_MAX_INPUT_BYTES" limits.maxInputBytes
  maxNestingDepth := overruled w Text.word64? "FLOWDSL_LIMITS_MAX_NESTING_DEPTH" limits.maxNestingDepth
  maxSteps := overruled w Text.word64? "FLOWDSL_LIMITS_MAX_STEPS" limits.maxSteps
  maxTriggers := overruled w Text.word64? "FLOWDSL_LIMITS_MAX_TRIGGERS" limits.maxTriggers
  maxPoliciesPerStep := overruled w Text.word64? "FLOWDSL_LIMITS_MAX_POLICIES_PER_STEP" limits.maxPoliciesPerStep

/-- The configuration after the variables. -/
def overrule (w : Workspace) (config : ValidatorConfig) : ValidatorConfig where
  rules := overruleRules w config.rules
  limits := overruleLimits w config.limits

/-- The sound configuration that a file and the variables make. -/
def load (w : Workspace) (path : String) : Except AppError ValidatorConfig := do
  let config := ((← ofFile? w path).getD {}).overrule w
  config.check
  return config

/-- The configuration of a directory. -/
def loadFrom (w : Workspace) (directory : String) : Except AppError ValidatorConfig :=
  load w (FilePath.join directory fileName)

/-- What the variables are for. -/
def variableNotes : List String :=
  ["FLOWDSL_RULES_CYCLES - Override cycle rule level (allow/warn/error, default: allow)",
    "FLOWDSL_RULES_SELF_REFERENCE - Override self-reference rule level (default: error)",
    "FLOWDSL_RULES_UNREACHABLE_STEPS - Override unreachable step rule level (default: warn)",
    "FLOWDSL_RULES_DISABLED - Comma-separated finding codes to suppress",
    "FLOWDSL_LIMITS_MAX_INPUT_BYTES - Override maximum document size (default: 10485760)",
    "FLOWDSL_LIMITS_MAX_NESTING_DEPTH - Override maximum nesting depth (default: 64)",
    "FLOWDSL_LIMITS_MAX_STEPS - Override maximum step count (default: 1000)",
    "FLOWDSL_LIMITS_MAX_TRIGGERS - Override maximum trigger count (default: 100)",
    "FLOWDSL_LIMITS_MAX_POLICIES_PER_STEP - Override maximum policies per step (default: 32)"]

end ValidatorConfig

end FlowCheck
