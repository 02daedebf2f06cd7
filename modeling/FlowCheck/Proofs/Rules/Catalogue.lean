import FlowCheck.Proofs.Tiers

/-!
# Findings keep to the catalogue

The catalogue says of each code whether settings may suppress it and how severe it is under default settings.

* Settings change the severity of three codes only, those of the rules at a level of choice;
  `RuleSettings.severityOf?` is the catalogue with these three changed, and it is the catalogue itself under
  default settings (`RuleSettings.severityOf?_default`).
* Every finding of the rules is under a code that may be suppressed, at the severity that the settings give to
  the code (`Rule.follows_of_run`).
* The errors of reading keep to the catalogue as well (`follows_of_reported`), so under default settings all
  findings of a result do, and none is under the code that is off by default.
-/

namespace FlowCheck

variable {settings : RuleSettings} {limits : InputLimits} {flow : Flow} {finding : Finding}

/-! ### The catalogue -/

namespace Code

theorem mem_all (code : Code) : code ∈ all := by
  cases code <;> decide

theorem isSuppressible_name (code : Code) : isSuppressible code.name = !code.reserved := by
  rw [isSuppressible, ofName?_name, Option.any_some]

end Code

/-- The severity of a code under settings; none for a code that is off. -/
def RuleSettings.severityOf? (settings : RuleSettings) (code : Code) : Option Severity :=
  match settings.level? code.name with
  | some level => level.severity?
  | none => code.severity?

/-- The catalogue has the severities under default settings. -/
theorem RuleSettings.severityOf?_default (code : Code) : ({} : RuleSettings).severityOf? code = code.severity? := by
  cases code <;> rfl

/-- The finding is under a code of the catalogue, at the severity that is given for the code. -/
def Finding.Follows (finding : Finding) (severity? : Code → Option Severity) : Prop :=
  ∃ code ∈ Code.all, finding.code = code.name ∧ severity? code = some finding.severity

/-- No finding is under a code without a severity. -/
theorem Finding.Follows.code_ne {severity? : Code → Option Severity} (h : finding.Follows severity?) {code : Code}
    (hnone : severity? code = none) : finding.code ≠ code.name := by
  obtain ⟨other, -, hother, hseverity⟩ := h
  intro hcode
  have hsame : code = other := Code.name_injective (hcode.symm.trans hother)
  rw [hsame, hseverity] at hnone
  cases hnone

/-! ### Findings of the rules -/

theorem Finding.Standard.follows (h : finding.Standard) :
    Code.isSuppressible finding.code = true ∧ finding.Follows settings.severityOf? := by
  have hlevel : settings.level? finding.code = none := level?_of_standard h
  obtain ⟨code, hcode, hstandard⟩ := h
  obtain ⟨⟨hreserved, -⟩, hseverity⟩ := Code.standardSeverity?_eq_some.1 hstandard
  rw [hcode] at hlevel ⊢
  refine ⟨?_, code, code.mem_all, hcode, ?_⟩
  · rw [Code.isSuppressible_name, hreserved]
    rfl
  · rw [RuleSettings.severityOf?, hlevel]
    exact hseverity

theorem RuleLevel.severity?_of_mem_atLevel {level : RuleLevel} {findings : List Finding}
    (h : finding ∈ level.atLevel findings) : level.severity? = some finding.severity := by
  unfold atLevel at h
  split at h
  · cases h
  · rename_i severity hseverity
    obtain ⟨_, -, rfl⟩ := List.mem_map.1 h
    exact hseverity

theorem Rule.follows_of_check (rule : Rule) (h : finding ∈ rule.check flow settings) :
    Code.isSuppressible finding.code = true ∧ finding.Follows settings.severityOf? := by
  cases hgraded : rule.gradedCode? with
  | none => exact (standard_of_check hgraded finding h).follows
  | some code =>
    have hcode := code_of_check hgraded flow settings finding h
    obtain ⟨level, hlevel, hcheck⟩ := check_eq_atLevel hgraded flow settings
    rw [hcheck] at h
    refine ⟨?_, code, code.mem_all, hcode, ?_⟩
    · rw [hcode, Code.isSuppressible_name, not_reserved_of_gradedCode? hgraded]
      rfl
    · rw [RuleSettings.severityOf?, hlevel]
      exact RuleLevel.severity?_of_mem_atLevel h

theorem Rule.follows_of_run (h : finding ∈ Rule.run flow settings) :
    Code.isSuppressible finding.code = true ∧ finding.Follows settings.severityOf? := by
  obtain ⟨rule, -, hcheck⟩ := List.mem_flatMap.1 (List.mem_filter.1 h).1
  exact rule.follows_of_check hcheck

/-! ### Findings of results -/

/-- The findings of an error keep to the catalogue. -/
theorem DocumentError.Grounded.follows {error : DocumentError} (h : error.Grounded) :
    ∀ finding ∈ error.findings, finding.Follows Code.severity? := by
  cases error with
  | malformed format message => exact List.forall_mem_singleton.2 ⟨_, Code.mem_all .parseError, rfl, rfl⟩
  | limitExceeded message => exact List.forall_mem_singleton.2 ⟨_, Code.mem_all .inputLimitExceeded, rfl, rfl⟩
  | schema findings =>
    intro finding hmem
    obtain ⟨hcode, hseverity⟩ := h.2 finding hmem
    exact ⟨_, Code.mem_all .schemaValidationError, hcode, by rw [hseverity]; rfl⟩

/-- Under default settings all that is reported keeps to the catalogue, so nothing is under the code that is off. -/
theorem follows_of_reported {read : Except DocumentError Flow}
    (hgrounded : ∀ error, read = .error error → error.Grounded)
    (h : finding ∈ (ValidationResult.ofFindings (reported {} read)).findings) :
    finding.Follows Code.severity? ∧ finding.code ≠ Code.stepGraphCycle.name := by
  have hfollows : finding.Follows Code.severity? := by
    have hmem := Tier.mem_findings_ofFindings.1 h
    cases read with
    | error error => exact (hgrounded error rfl).follows finding hmem
    | ok flow =>
      obtain ⟨code, hcode, hname, hseverity⟩ := (Rule.follows_of_run hmem).2
      exact ⟨code, hcode, hname, by rw [← RuleSettings.severityOf?_default, hseverity]⟩
  exact ⟨hfollows, hfollows.code_ne rfl⟩

/-- Every finding of the rules is under a code of the catalogue that may be suppressed, at the severity of the
catalogue or, for the three rules with a level, of their level; and under default settings every finding of a
result has the severity of the catalogue, and none is about a cycle. -/
theorem findings_keep_to_catalogue :
    (∀ flow settings, ∀ finding ∈ Rule.run flow settings,
      Code.isSuppressible finding.code = true ∧ finding.Follows settings.severityOf?) ∧
    ∀ limits, (∀ tree, ∀ finding ∈ (validate ⟨{}, limits⟩ tree).findings,
        finding.Follows Code.severity? ∧ finding.code ≠ Code.stepGraphCycle.name) ∧
      ∀ format text, ∀ finding ∈ (validateText ⟨{}, limits⟩ format text).findings,
        finding.Follows Code.severity? ∧ finding.code ≠ Code.stepGraphCycle.name := by
  refine ⟨fun _ _ _ => Rule.follows_of_run, fun limits => ⟨fun tree finding h => ?_, fun format text finding h => ?_⟩⟩
  · rw [validate_eq_reported] at h
    exact follows_of_reported (fun _ => Reading.grounded_of_flowOfTree) h
  · rw [validateText_eq_reported] at h
    exact follows_of_reported (fun _ => Reading.grounded_of_flow) h

/-- The cycle of the knot, at the level that is set for cycles. -/
def knotCycle (severity : Severity) : Finding :=
  Rules.cycle knot.steps severity [0, 1]

theorem findings_keep_to_catalogue_of_knot :
    (knotCycle .warning ∈ Rule.run knot lenient ∧ Code.isSuppressible (knotCycle .warning).code = true ∧
      (knotCycle .warning).Follows lenient.severityOf?) ∧
    (Finding.schemaRoot "flow document must be a mapping, found null" ∈ (validate ⟨{}, {}⟩ .null).findings ∧
      (Finding.schemaRoot "flow document must be a mapping, found null").Follows Code.severity?) ∧
    ∃ finding ∈ (validateText ⟨{}, {}⟩ .json "nul").findings, finding.Follows Code.severity? := by
  obtain ⟨hrules, hresults⟩ := findings_keep_to_catalogue
  have hcycle : knotCycle .warning ∈ Rule.run knot lenient := by
    refine Rule.mem_run .cycles ?_ rfl
    rw [Rule.check, Rules.cycles, Graph.cycles_knot]
    exact List.mem_singleton_self _
  have hroot : Finding.schemaRoot "flow document must be a mapping, found null" ∈ (validate ⟨{}, {}⟩ .null).findings :=
    List.mem_singleton_self _
  have htext : Finding.parseError "failed to parse JSON document: EOF while parsing a value at line 1 column 3" ∈
      (validateText ⟨{}, {}⟩ .json "nul").findings := List.mem_singleton_self _
  exact ⟨⟨hcycle, hrules knot lenient _ hcycle⟩, ⟨hroot, ((hresults {}).1 .null _ hroot).1⟩,
    ⟨_, htext, ((hresults {}).2 .json "nul" _ htext).1⟩⟩

end FlowCheck
