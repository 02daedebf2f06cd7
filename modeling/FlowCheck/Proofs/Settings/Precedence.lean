import FlowCheck.Proofs.Grammar.Conformance
import FlowCheck.Proofs.Rules.Catalogue
import FlowCheck.Proofs.Text.Words
import FlowCheck.Settings.Loading

/-!
# Where settings come from

Each setting is taken from its variable, if the variable is set and its text can be read, else from the
configuration file, else it has its default (`ValidatorConfig.Settles`).  The settings do not touch each other,
and together they are one configuration (`ValidatorConfig.merges_iff`).  What is loaded is that configuration,
if it is sound; soundness is a matter of the merged settings and not of those in the file
(`ValidatorConfig.load_of_sound`, `ValidatorConfig.load_of_not_sound`).

A file gives a setting by its name in a section or, where the section is a list, by its position (`Value.placed?`).
-/

namespace FlowCheck

variable {α β ρ : Type}

/-! ### What a file says -/

/-- What stands in the place of a field in a mapping or a list of fields. -/
def Value.placed? (names : List String) (name : String) : Value → Option Value
  | .object entries => entries.lookup name
  | .list items => items[names.idxOf name]?
  | _ => none

theorem Value.itemSlots_eq_map {names : List String} (hnodup : names.Nodup) (items : List Value) :
    Value.itemSlots names items = names.map fun name => items[names.idxOf name]? := by
  induction names generalizing items with
  | nil => rfl
  | cons first names ih =>
    rw [List.nodup_cons] at hnodup
    rw [Value.itemSlots, ih hnodup.2, List.map_cons, List.idxOf_cons_self, List.head?_eq_getElem?]
    refine congrArg _ (List.map_congr_left fun name hname => ?_)
    have hne : first ≠ name := fun heq => hnodup.1 (heq ▸ hname)
    rw [List.idxOf_cons_ne _ hne, List.getElem?_tail]

/-- Each field of a structure in a configuration is read from its place. -/
theorem Record.reads_of_decode_configuration {record : Record α} {v : Value} {a : α} (hnodup : record.names.Nodup)
    (h : record.decode .configuration v = .ok a) :
    record.Reads .configuration (record.names.map fun name => v.placed? record.names name) a := by
  obtain ⟨slots, hslots, hreads⟩ := Record.decode_eq_ok.1 h
  cases v with
  | object entries =>
    cases hslots
    exact hreads
  | list items =>
    rw [Value.slots?, if_pos (.inr rfl), Value.itemSlots_eq_map hnodup] at hslots
    cases hslots
    exact hreads
  | _ => cases hslots

/-- The value in the place of a field with a default, if there is one. -/
def Schema.given? (schema : Schema α) (slot : Option Value) : Option α :=
  slot.bind fun v => (schema.decode .configuration v).toOption

theorem Field.eq_given_of_read {name : String} {schema : Schema α} {default a : α} {slot : Option Value}
    (h : (Field.withDefault name schema default).read .configuration slot = .ok a) :
    a = (schema.given? slot).getD default := by
  rcases Field.read_defaulted_eq_ok.1 h with ⟨v, rfl, hdecode⟩ | ⟨rfl, rfl⟩
  · rw [Schema.given?, Option.bind_some, hdecode]
    rfl
  · rfl

theorem Workspace.pathExists_of_read {w : Workspace} {path content : String} (h : w.read path = .ok content) :
    w.pathExists path = true := by
  obtain ⟨found, hfound, -⟩ := bind_eq_ok.1 h
  rw [Workspace.pathExists, hfound]
  rfl

namespace ValidatorConfig

/-- What a configuration file says of a setting in one of its sections; an absent file says nothing. -/
def said? (section' : String) (record : Record β) (schema : Schema α) (name : String) (tree? : Option Value) :
    Option α :=
  schema.given? ((tree?.bind (·.placed? ValidatorConfig.record.names section')).bind (·.placed? record.names name))

abbrev saidLevel? (name : String) : Option Value → Option RuleLevel :=
  said? "rules" RuleSettings.record (.choice RuleLevel.choices) name

abbrev saidLimit? (name : String) : Option Value → Option UInt64 :=
  said? "limits" InputLimits.record (.unsigned .w64) name

/-- The configuration file is absent, or it can be read as the tree. -/
inductive IsFile (w : Workspace) (path : String) : Option Value → Prop
  | absent (h : w.pathExists path = false) : IsFile w path none
  | written {content : String} {tree : Value} {config : ValidatorConfig} (hread : w.read path = .ok content)
      (htree : Toml.read content = .ok tree) (hconfig : record.decode .configuration tree = .ok config) :
      IsFile w path (some tree)

/-- The value of a setting is what its variable says without blanks around it, if that can be read; otherwise it
is what the file says, or else the default. -/
def Settles (reads : String → α → Prop) (text? : Option String) (file? : Option α) (default value : α) : Prop :=
  (∃ text, text? = some text ∧ reads (Text.trim text) value) ∨
    (∀ text, text? = some text → ∀ a, ¬reads (Text.trim text) a) ∧ value = file?.getD default

end ValidatorConfig

theorem Code.isSuppressible_iff {name : String} :
    Code.isSuppressible name = true ↔ ∃ code ∈ Code.all, code.name = name ∧ code.reserved = false := by
  constructor
  · intro h
    obtain ⟨code, hcode, hreserved⟩ := (Option.any_eq_true _ _).1 h
    rw [Code.ofName?] at hcode
    have hname := List.find?_some hcode
    rw [beq_iff_eq] at hname
    exact ⟨code, code.mem_all, hname, by simpa using hreserved⟩
  · rintro ⟨code, -, rfl, hreserved⟩
    rw [Code.isSuppressible_name, hreserved, Bool.not_false]

/-- The names of a level in variables. -/
def RuleLevel.words : RuleLevel → List String
  | .allow => ["allow", "off"]
  | .warn => ["warn", "warning"]
  | .error => ["error", "deny"]

/-- The text is a name of the level, up to case. -/
def RuleLevel.IsNamed (text : String) (level : RuleLevel) : Prop :=
  ∃ word ∈ level.words, Text.SameWord text word

theorem RuleLevel.isNamed_iff {text : String} {level : RuleLevel} :
    RuleLevel.IsNamed text level ↔ Text.lowerAscii text ∈ level.words := by
  have hsmall : ∀ word ∈ level.words, ∀ c ∈ word.toList, ¬Text.IsCapital c := by
    cases level <;> simp [RuleLevel.words, Text.IsCapital]
  constructor
  · rintro ⟨word, hword, hsame⟩
    rwa [(Text.lowerAscii_eq_iff (hsmall word hword)).2 hsame]
  · intro hword
    exact ⟨_, hword, (Text.lowerAscii_eq_iff (hsmall _ hword)).1 rfl⟩

namespace ValidatorConfig

/-- The settings of a configuration, each taken from its own variable, from the file or by default. -/
structure Merges (w : Workspace) (tree? : Option Value) (config : ValidatorConfig) : Prop where
  cycles : Settles RuleLevel.IsNamed (w.valueOf? "FLOWDSL_RULES_CYCLES") (saidLevel? "cycles" tree?) .allow
    config.rules.cycles
  selfReference : Settles RuleLevel.IsNamed (w.valueOf? "FLOWDSL_RULES_SELF_REFERENCE")
    (saidLevel? "self_reference" tree?) .error config.rules.selfReference
  unreachableSteps : Settles RuleLevel.IsNamed (w.valueOf? "FLOWDSL_RULES_UNREACHABLE_STEPS")
    (saidLevel? "unreachable_steps" tree?) .warn config.rules.unreachableSteps
  /-- The list is replaced as a whole, whatever its variable says. -/
  disabled : config.rules.disabled =
    match w.valueOf? "FLOWDSL_RULES_DISABLED" with
    | some text => ((text.splitOn ",").map Text.trim).filter (!·.isEmpty)
    | none => (said? "rules" RuleSettings.record (.list .string) "disabled" tree?).getD []
  maxInputBytes : Settles Text.IsNumeral (w.valueOf? "FLOWDSL_LIMITS_MAX_INPUT_BYTES")
    (saidLimit? "max_input_bytes" tree?) 10485760 config.limits.maxInputBytes
  maxNestingDepth : Settles Text.IsNumeral (w.valueOf? "FLOWDSL_LIMITS_MAX_NESTING_DEPTH")
    (saidLimit? "max_nesting_depth" tree?) 64 config.limits.maxNestingDepth
  maxSteps : Settles Text.IsNumeral (w.valueOf? "FLOWDSL_LIMITS_MAX_STEPS") (saidLimit? "max_steps" tree?) 1000
    config.limits.maxSteps
  maxTriggers : Settles Text.IsNumeral (w.valueOf? "FLOWDSL_LIMITS_MAX_TRIGGERS") (saidLimit? "max_triggers" tree?) 100
    config.limits.maxTriggers
  maxPoliciesPerStep : Settles Text.IsNumeral (w.valueOf? "FLOWDSL_LIMITS_MAX_POLICIES_PER_STEP")
    (saidLimit? "max_policies_per_step" tree?) 32 config.limits.maxPoliciesPerStep

/-- No limit is zero, and all suppressed codes are in the catalogue and not reserved. -/
structure Sound (config : ValidatorConfig) : Prop where
  maxInputBytes : config.limits.maxInputBytes ≠ 0
  maxNestingDepth : config.limits.maxNestingDepth ≠ 0
  maxSteps : config.limits.maxSteps ≠ 0
  maxTriggers : config.limits.maxTriggers ≠ 0
  maxPoliciesPerStep : config.limits.maxPoliciesPerStep ≠ 0
  disabled : ∀ name ∈ config.rules.disabled, ∃ code ∈ Code.all, code.name = name ∧ code.reserved = false

/-! ### One setting -/

section Settles

variable {w : Workspace} {read? : String → Option α} {reads : String → α → Prop} {name : String} {file? : Option α}
  {default value : α}

/-- Overruling takes a setting from where it comes. -/
theorem settles_iff {old : α} (hread : ∀ text a, read? (Text.trim text) = some a ↔ reads (Text.trim text) a)
    (hold : old = file?.getD default) :
    Settles reads (w.valueOf? name) file? default value ↔ value = overruled w read? name old := by
  rw [Settles, overruled, hold]
  cases hvalue : w.valueOf? name with
  | none => simp
  | some text =>
    simp only [Option.some.injEq, exists_eq_left', forall_eq', Option.bind_some, ← hread]
    cases read? (Text.trim text) with
    | none => simp
    | some a => simp [eq_comm]

theorem settles_of_unset (h : w.valueOf? name = none) :
    Settles reads (w.valueOf? name) file? default (file?.getD default) := by
  refine .inr ⟨fun text htext => ?_, rfl⟩
  rw [h] at htext
  cases htext

end Settles

theorem level?_eq_some_iff (text : String) (level : RuleLevel) :
    overruleRules.level? (Text.trim text) = some level ↔ RuleLevel.IsNamed (Text.trim text) level := by
  rw [RuleLevel.isNamed_iff, overruleRules.level?, RuleLevel.ofText, Text.trim_trim]
  generalize Text.lowerAscii (Text.trim text) = word
  constructor
  · intro h
    split at h
    · rename_i hword
      cases h
      simpa [RuleLevel.words] using hword
    · split at h
      · rename_i hword
        cases h
        simpa [RuleLevel.words] using hword
      · split at h
        · rename_i hword
          cases h
          simpa [RuleLevel.words] using hword
        · cases h
  · intro hword
    cases level <;> simp only [RuleLevel.words, List.mem_cons, List.not_mem_nil, or_false] at hword <;>
      rcases hword with rfl | rfl <;> rfl

theorem numeral_iff (text : String) (n : UInt64) :
    Text.word64? (Text.trim text) = some n ↔ Text.IsNumeral (Text.trim text) n :=
  Text.word64?_eq_some_iff

/-! ### The file -/

/-- The configuration has what the file says, and defaults elsewhere. -/
structure Says (tree? : Option Value) (config : ValidatorConfig) : Prop where
  cycles : config.rules.cycles = (saidLevel? "cycles" tree?).getD .allow
  selfReference : config.rules.selfReference = (saidLevel? "self_reference" tree?).getD .error
  unreachableSteps : config.rules.unreachableSteps = (saidLevel? "unreachable_steps" tree?).getD .warn
  disabled : config.rules.disabled =
    (said? "rules" RuleSettings.record (.list .string) "disabled" tree?).getD []
  maxInputBytes : config.limits.maxInputBytes = (saidLimit? "max_input_bytes" tree?).getD 10485760
  maxNestingDepth : config.limits.maxNestingDepth = (saidLimit? "max_nesting_depth" tree?).getD 64
  maxSteps : config.limits.maxSteps = (saidLimit? "max_steps" tree?).getD 1000
  maxTriggers : config.limits.maxTriggers = (saidLimit? "max_triggers" tree?).getD 100
  maxPoliciesPerStep : config.limits.maxPoliciesPerStep = (saidLimit? "max_policies_per_step" tree?).getD 32

theorem says_none : Says none {} :=
  ⟨rfl, rfl, rfl, rfl, rfl, rfl, rfl, rfl, rfl⟩

/-- Rule settings are read one by one, each from its place in their section. -/
theorem rules_of_read {slot : Option Value} {rules : RuleSettings}
    (h : (Field.withDefault "rules" (.record RuleSettings.record) {}).read .configuration slot = .ok rules) :
    rules.cycles = ((Schema.choice RuleLevel.choices).given?
        (slot.bind (·.placed? RuleSettings.record.names "cycles"))).getD .allow ∧
      rules.selfReference = ((Schema.choice RuleLevel.choices).given?
        (slot.bind (·.placed? RuleSettings.record.names "self_reference"))).getD .error ∧
      rules.unreachableSteps = ((Schema.choice RuleLevel.choices).given?
        (slot.bind (·.placed? RuleSettings.record.names "unreachable_steps"))).getD .warn ∧
      rules.disabled = ((Schema.list .string).given?
        (slot.bind (·.placed? RuleSettings.record.names "disabled"))).getD [] := by
  rcases Field.read_defaulted_eq_ok.1 h with ⟨v, rfl, hdecode⟩ | ⟨rfl, rfl⟩
  · obtain ⟨hcycles, hself, hunreachable, hdisabled, -⟩ :=
      Record.reads_of_decode_configuration (by decide) hdecode
    exact ⟨Field.eq_given_of_read hcycles, Field.eq_given_of_read hself, Field.eq_given_of_read hunreachable,
      Field.eq_given_of_read hdisabled⟩
  · exact ⟨rfl, rfl, rfl, rfl⟩

theorem limits_of_read {slot : Option Value} {limits : InputLimits}
    (h : (Field.withDefault "limits" (.record InputLimits.record) {}).read .configuration slot = .ok limits) :
    limits.maxInputBytes = ((Schema.unsigned .w64).given?
        (slot.bind (·.placed? InputLimits.record.names "max_input_bytes"))).getD 10485760 ∧
      limits.maxNestingDepth = ((Schema.unsigned .w64).given?
        (slot.bind (·.placed? InputLimits.record.names "max_nesting_depth"))).getD 64 ∧
      limits.maxSteps = ((Schema.unsigned .w64).given?
        (slot.bind (·.placed? InputLimits.record.names "max_steps"))).getD 1000 ∧
      limits.maxTriggers = ((Schema.unsigned .w64).given?
        (slot.bind (·.placed? InputLimits.record.names "max_triggers"))).getD 100 ∧
      limits.maxPoliciesPerStep = ((Schema.unsigned .w64).given?
        (slot.bind (·.placed? InputLimits.record.names "max_policies_per_step"))).getD 32 := by
  rcases Field.read_defaulted_eq_ok.1 h with ⟨v, rfl, hdecode⟩ | ⟨rfl, rfl⟩
  · obtain ⟨hbytes, hdepth, hsteps, htriggers, hpolicies, -⟩ :=
      Record.reads_of_decode_configuration (by decide) hdecode
    exact ⟨Field.eq_given_of_read hbytes, Field.eq_given_of_read hdepth, Field.eq_given_of_read hsteps,
      Field.eq_given_of_read htriggers, Field.eq_given_of_read hpolicies⟩
  · exact ⟨rfl, rfl, rfl, rfl, rfl⟩

theorem says_of_decode {tree : Value} {config : ValidatorConfig}
    (h : record.decode .configuration tree = .ok config) : Says (some tree) config := by
  obtain ⟨hrules, hlimits, -⟩ := Record.reads_of_decode_configuration (by decide) h
  obtain ⟨hcycles, hself, hunreachable, hdisabled⟩ := rules_of_read hrules
  obtain ⟨hbytes, hdepth, hsteps, htriggers, hpolicies⟩ := limits_of_read hlimits
  exact ⟨hcycles, hself, hunreachable, hdisabled, hbytes, hdepth, hsteps, htriggers, hpolicies⟩

/-- What is read from the file, if it is there, is what the file says. -/
theorem ofFile?_of_isFile {w : Workspace} {path : String} {tree? : Option Value} (h : IsFile w path tree?) :
    ∃ config?, ofFile? w path = .ok config? ∧ Says tree? (config?.getD {}) := by
  cases h with
  | absent h =>
    refine ⟨none, ?_, says_none⟩
    rw [ofFile?, h]
    rfl
  | @written content tree config hread htree hconfig =>
    refine ⟨some config, ?_, says_of_decode hconfig⟩
    have hdecode : Toml.decode record content = .ok config := by
      simp only [Toml.decode, htree, hconfig, bind, Except.bind, pure, Except.pure]
    simp only [ofFile?, Workspace.pathExists_of_read hread, hread, hdecode, Except.mapError, bind, Except.bind, pure,
      Except.pure, Bool.not_true, Bool.false_eq_true, if_false]

/-! ### All settings -/

section Merged

variable {w : Workspace} {tree? : Option Value} {base config : ValidatorConfig}

theorem disabled_overrule (h : Says tree? base) : (base.overrule w).rules.disabled =
    match w.valueOf? "FLOWDSL_RULES_DISABLED" with
    | some text => ((text.splitOn ",").map Text.trim).filter (!·.isEmpty)
    | none => (said? "rules" RuleSettings.record (.list .string) "disabled" tree?).getD [] := by
  rw [overrule, overruleRules, ← h.disabled]
  cases w.valueOf? "FLOWDSL_RULES_DISABLED" <;> rfl

/-- The settings make one configuration: the one that overruling gives. -/
theorem merges_iff (h : Says tree? base) : Merges w tree? config ↔ config = base.overrule w := by
  constructor
  · intro hmerges
    have hcycles := (settles_iff level?_eq_some_iff h.cycles).1 hmerges.cycles
    have hself := (settles_iff level?_eq_some_iff h.selfReference).1 hmerges.selfReference
    have hunreachable := (settles_iff level?_eq_some_iff h.unreachableSteps).1 hmerges.unreachableSteps
    have hbytes := (settles_iff numeral_iff h.maxInputBytes).1 hmerges.maxInputBytes
    have hdepth := (settles_iff numeral_iff h.maxNestingDepth).1 hmerges.maxNestingDepth
    have hsteps := (settles_iff numeral_iff h.maxSteps).1 hmerges.maxSteps
    have htriggers := (settles_iff numeral_iff h.maxTriggers).1 hmerges.maxTriggers
    have hpolicies := (settles_iff numeral_iff h.maxPoliciesPerStep).1 hmerges.maxPoliciesPerStep
    have hdisabled := hmerges.disabled.trans (disabled_overrule h).symm
    obtain ⟨⟨cycles, selfReference, unreachableSteps, disabled⟩, limits⟩ := config
    obtain ⟨maxInputBytes, maxNestingDepth, maxSteps, maxTriggers, maxPoliciesPerStep⟩ := limits
    simp only [overrule, overruleRules, overruleLimits, mk.injEq, RuleSettings.mk.injEq, InputLimits.mk.injEq]
    exact ⟨⟨hcycles, hself, hunreachable, hdisabled⟩, hbytes, hdepth, hsteps, htriggers, hpolicies⟩
  · rintro rfl
    exact ⟨(settles_iff level?_eq_some_iff h.cycles).2 rfl, (settles_iff level?_eq_some_iff h.selfReference).2 rfl,
      (settles_iff level?_eq_some_iff h.unreachableSteps).2 rfl, disabled_overrule h,
      (settles_iff numeral_iff h.maxInputBytes).2 rfl, (settles_iff numeral_iff h.maxNestingDepth).2 rfl,
      (settles_iff numeral_iff h.maxSteps).2 rfl, (settles_iff numeral_iff h.maxTriggers).2 rfl,
      (settles_iff numeral_iff h.maxPoliciesPerStep).2 rfl⟩

end Merged

/-! ### Sound configurations -/

/-- Only known codes can be suppressed, so the second reason subsumes the first. -/
theorem disabledFault?_eq_none_iff {name : String} :
    disabledFault? name = none ↔ ∃ code ∈ Code.all, code.name = name ∧ code.reserved = false := by
  rw [← Code.isSuppressible_iff, disabledFault?, Code.isKnown, Code.isSuppressible]
  cases Code.ofName? name with
  | none => simp
  | some code => simp

theorem fault?_eq_none_iff {config : ValidatorConfig} : config.fault? = none ↔ config.Sound := by
  simp only [fault?, Option.or_eq_none_iff, List.findSome?_eq_none_iff, disabledFault?_eq_none_iff, bounds,
    List.forall_mem_cons, ite_eq_right_iff, reduceCtorEq, imp_false]
  constructor
  · rintro ⟨⟨hbytes, hdepth, hsteps, htriggers, hpolicies, -⟩, hdisabled⟩
    exact ⟨hbytes, hdepth, hsteps, htriggers, hpolicies, hdisabled⟩
  · intro h
    exact ⟨⟨h.maxInputBytes, h.maxNestingDepth, h.maxSteps, h.maxTriggers, h.maxPoliciesPerStep,
      List.forall_mem_nil _⟩, h.disabled⟩

/-! ### Loading -/

theorem load_of_sound {w : Workspace} {path : String} {config? : Option ValidatorConfig}
    (hfile : ofFile? w path = .ok config?) (h : ((config?.getD {}).overrule w).Sound) :
    load w path = .ok ((config?.getD {}).overrule w) := by
  simp only [load, hfile, check, fault?_eq_none_iff.2 h, bind, Except.bind, pure, Except.pure]

theorem load_of_not_sound {w : Workspace} {path : String} {config? : Option ValidatorConfig}
    (hfile : ofFile? w path = .ok config?) (h : ¬((config?.getD {}).overrule w).Sound) :
    ∃ error, load w path = .error error ∧ error.category = .configuration := by
  obtain ⟨message, hmessage⟩ := Option.ne_none_iff_exists'.1 fun hnone => h (fault?_eq_none_iff.1 hnone)
  refine ⟨{ category := .configuration, message }, ?_, rfl⟩
  simp only [load, hfile, check, hmessage, bind, Except.bind]

/-- What is loaded is the one configuration whose settings each come from their variable, from the file or by default,
if it is sound as a whole; otherwise loading fails with a configuration error. -/
theorem load_merges {w : Workspace} {path : String} {tree? : Option Value} (hfile : IsFile w path tree?) :
    ∃ merged, (∀ config, Merges w tree? config ↔ config = merged) ∧
      (∀ config, load w path = .ok config ↔ merged.Sound ∧ config = merged) ∧
      (¬merged.Sound → ∃ error, load w path = .error error ∧ error.category = .configuration) := by
  obtain ⟨config?, hread, hsays⟩ := ofFile?_of_isFile hfile
  refine ⟨(config?.getD {}).overrule w, fun config => merges_iff hsays, fun config => ?_, load_of_not_sound hread⟩
  by_cases hsound : ((config?.getD {}).overrule w).Sound
  · rw [load_of_sound hread hsound, Except.ok.injEq, eq_comm]
    exact (and_iff_right hsound).symm
  · obtain ⟨error, herror, -⟩ := load_of_not_sound hread hsound
    rw [herror]
    exact iff_of_false nofun fun h => hsound h.1

/-- A configuration with its rules as a list and a limit of zero. -/
def repairedText : String :=
  "rules = [\"warn\", \"error\", \"warn\", [\"OWNERS_MISSING\"]]\n[limits]\nmax_steps = 0\n"

/-- One variable repairs the limit, another one cannot be read. -/
def repaired : Workspace where
  root := []
  entries := [(["c"], .text repairedText)]
  environment := [("FLOWDSL_LIMITS_MAX_STEPS", " +020 "), ("FLOWDSL_LIMITS_MAX_TRIGGERS", "lots"),
    ("FLOWDSL_RULES_SELF_REFERENCE", "OFF\t")]

/-- What the file says. -/
def repairedTree : Value :=
  .object [("limits", .object [("max_steps", .int (.ofNat 0 (by decide)))]),
    ("rules", .list [.string "warn", .string "error", .string "warn", .list [.string "OWNERS_MISSING"]])]

theorem isFile_repaired : IsFile repaired "c" (some repairedTree) := by
  have hsegments : FilePath.segments "c" = ["c"] := by decide +kernel
  have hread : repaired.read "c" = .ok repairedText := by
    rw [Workspace.read, Workspace.lookUp, Workspace.namesDirectory, FilePath.components, hsegments]
    rfl
  have htree : Toml.read repairedText = .ok repairedTree := by
    simp only [repairedText, Toml.read, String.reduceToList]
    rfl
  have hconfig : record.decode .configuration repairedTree =
      .ok ⟨⟨.warn, .error, .warn, ["OWNERS_MISSING"]⟩, { maxSteps := 0 }⟩ := rfl
  exact .written hread htree hconfig

/-- What is loaded. -/
def repairedConfig : ValidatorConfig where
  rules := ⟨.warn, .allow, .warn, ["OWNERS_MISSING"]⟩
  limits := { maxSteps := 20 }

theorem merges_repaired : Merges repaired (some repairedTree) repairedConfig := by
  have hoff : Text.trim "OFF\t" = "OFF" := by simp [Text.trim, Text.dropEndBlanks, Text.isBlank]
  have htwenty : Text.trim " +020 " = "+020" := by simp [Text.trim, Text.dropEndBlanks, Text.isBlank]
  have hlots : Text.trim "lots" = "lots" := by simp [Text.trim, Text.dropEndBlanks, Text.isBlank]
  refine ⟨settles_of_unset rfl, .inl ⟨"OFF\t", rfl, ?_⟩, settles_of_unset rfl, rfl, settles_of_unset rfl,
    settles_of_unset rfl, .inl ⟨" +020 ", rfl, ?_⟩, .inr ⟨?_, rfl⟩, settles_of_unset rfl⟩
  · rw [hoff, RuleLevel.isNamed_iff]
    simp [RuleLevel.words, Text.lowerAscii, repairedConfig]
  · rw [htwenty]
    refine ⟨['0', '2', '0'], .inr (by simp), by simp, by simp, ?_⟩
    simp [repairedConfig, Text.decimal, Nat.ofDigits_cons]
  · intro text htext n hn
    cases htext
    rw [hlots, ← Text.word64?_eq_some_iff] at hn
    simp [Text.word64?] at hn

theorem load_merges_repaired :
    IsFile repaired "c" (some repairedTree) ∧ Merges repaired (some repairedTree) repairedConfig ∧
      load repaired "c" = .ok repairedConfig := by
  obtain ⟨merged, hmerged, hload, -⟩ := load_merges isFile_repaired
  obtain rfl : repairedConfig = merged := (hmerged repairedConfig).1 merges_repaired
  have hsound : repairedConfig.Sound := by
    refine ⟨by decide, by decide, by decide, by decide, by decide, List.forall_mem_singleton.2 ?_⟩
    exact ⟨.ownersMissing, Code.mem_all _, rfl, rfl⟩
  exact ⟨isFile_repaired, merges_repaired, (hload repairedConfig).2 ⟨hsound, rfl⟩⟩

end ValidatorConfig

end FlowCheck
