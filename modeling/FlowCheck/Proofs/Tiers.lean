import FlowCheck.Proofs.Outcomes

/-!
# Tiers of failure

A result is in one of four tiers: the text is malformed, the document is too large, it does not have the
structure of a flow, or the rules judged it.

* What reading came to decides the tier, and the result is in it (`Tier.covers_ofRead`): an error is all that a
  result in one of the first three tiers reports, and the rules leave the codes and the severity of these tiers
  alone (`Rule.isSemantic_of_run`).
* The tiers exclude each other, since each of the first three reports under a code of its own (`Tier.Covers.unique`).
* Settings are only looked at in the last tier, so they cannot suppress what the others report
  (`Tier.Covers.of_settings`).
-/

namespace FlowCheck

variable {rules : RuleSettings} {limits : InputLimits} {flow : Flow} {error : DocumentError}

/-! ### What the rules leave alone -/

/-- The finding is neither critical nor under a code that is reserved. -/
def Finding.IsSemantic (finding : Finding) : Prop :=
  finding.severity ≠ .critical ∧ ∀ code : Code, code.reserved = true → finding.code ≠ code.name

theorem Finding.isSemantic_of_code {finding : Finding} {code : Code} (hcode : finding.code = code.name)
    (hreserved : code.reserved = false) (hseverity : finding.severity ≠ .critical) : finding.IsSemantic := by
  refine ⟨hseverity, fun other hother hname => ?_⟩
  have hsame : code = other := Code.name_injective (hcode.symm.trans hname)
  rw [hsame, hother] at hreserved
  cases hreserved

theorem Finding.Standard.isSemantic {finding : Finding} (h : finding.Standard) : finding.IsSemantic := by
  obtain ⟨code, hcode, hstandard⟩ := h
  obtain ⟨⟨hreserved, -⟩, hseverity⟩ := Code.standardSeverity?_eq_some.1 hstandard
  refine isSemantic_of_code hcode hreserved fun hcritical => ?_
  -- only reserved codes are critical
  rw [hcritical] at hseverity
  cases code with
  | parseError | inputLimitExceeded => cases hreserved
  | _ => cases hseverity

theorem RuleLevel.severity_ne_critical {level : RuleLevel} {findings : List Finding} :
    ∀ finding ∈ level.atLevel findings, finding.severity ≠ .critical := by
  cases level with
  | allow => exact fun _ h => absurd h List.not_mem_nil
  | warn => exact List.forall_mem_map.2 fun _ _ h => nomatch h
  | error => exact List.forall_mem_map.2 fun _ _ h => nomatch h

theorem Rule.isSemantic_of_check (rule : Rule) : ∀ finding ∈ rule.check flow rules, finding.IsSemantic := by
  intro finding hmem
  cases hgraded : rule.gradedCode? with
  | none => exact (standard_of_check hgraded finding hmem).isSemantic
  | some code =>
    have hcode := code_of_check hgraded flow rules finding hmem
    obtain ⟨level, -, hcheck⟩ := check_eq_atLevel hgraded flow rules
    rw [hcheck] at hmem
    exact Finding.isSemantic_of_code hcode (not_reserved_of_gradedCode? hgraded)
      (RuleLevel.severity_ne_critical finding hmem)

theorem Rule.isSemantic_of_run : ∀ finding ∈ Rule.run flow rules, finding.IsSemantic := by
  intro finding hmem
  obtain ⟨rule, -, hcheck⟩ := List.mem_flatMap.1 (List.mem_filter.1 hmem).1
  exact rule.isSemantic_of_check finding hcheck

/-! ### Tiers -/

/-- How far a document came. -/
inductive Tier where
  | malformed
  | tooLarge
  | misshapen
  | judged
  deriving DecidableEq

namespace Tier

/-- The code of all findings in the tier, unless the rules made them. -/
def code? : Tier → Option Code
  | malformed => some .parseError
  | tooLarge => some .inputLimitExceeded
  | misshapen => some .schemaValidationError
  | judged => none

/-- The result for a document is as it is in the tier, where `read` is what reading the document came to. -/
def Covers (rules : RuleSettings) (read : Except DocumentError Flow) (result : ValidationResult) : Tier → Prop
  | malformed => ∃ message, result = ⟨[.parseError message], []⟩
  | tooLarge => ∃ message, result = ⟨[.limitExceeded message], []⟩
  | misshapen => result.errors ≠ [] ∧ (∀ finding ∈ result.errors, finding.IsStructural) ∧ result.warnings = []
  | judged => ∃ flow, read = .ok flow ∧ result = .ofFindings (Rule.run flow rules) ∧
      ∀ finding ∈ result.findings, finding.IsSemantic

/-- The tier of what reading came to. -/
def ofRead : Except DocumentError Flow → Tier
  | .error (.malformed _ _) => malformed
  | .error (.limitExceeded _) => tooLarge
  | .error (.schema _) => misshapen
  | .ok _ => judged

variable {read : Except DocumentError Flow} {result : ValidationResult} {tier other : Tier} {code : Code}

theorem code?_injective (h : tier.code? = other.code?) : tier = other := by
  cases tier <;> cases other <;> first | rfl | cases h

theorem reserved_of_code? (h : tier.code? = some code) : code.reserved = true := by
  cases tier <;> cases h <;> rfl

/-! ### The tiers exclude each other -/

/-- In a tier with a code of its own there is a finding, and all findings are under the code. -/
theorem Covers.code_eq (h : tier.Covers rules read result) (hcode : tier.code? = some code) :
    result.findings ≠ [] ∧ ∀ finding ∈ result.findings, finding.code = code.name := by
  cases tier with
  | malformed =>
    obtain ⟨message, rfl⟩ := h
    cases hcode
    exact ⟨List.cons_ne_nil _ _, List.forall_mem_singleton.2 rfl⟩
  | tooLarge =>
    obtain ⟨message, rfl⟩ := h
    cases hcode
    exact ⟨List.cons_ne_nil _ _, List.forall_mem_singleton.2 rfl⟩
  | misshapen =>
    obtain ⟨hne, hall, hwarnings⟩ := h
    cases hcode
    rw [ValidationResult.findings, hwarnings, List.append_nil]
    exact ⟨hne, fun finding hmem => (hall finding hmem).1⟩
  | judged => cases hcode

/-- A result with a finding under a code of one tier is in no tier with another code, or none. -/
theorem Covers.code?_eq (h : tier.Covers rules read result) (hother : other.Covers rules read result)
    (hcode : tier.code? = some code) : other.code? = some code := by
  obtain ⟨hne, hall⟩ := h.code_eq hcode
  obtain ⟨finding, hmem⟩ := List.exists_mem_of_ne_nil _ hne
  have hname := hall finding hmem
  cases hothercode : other.code? with
  | some otherCode =>
    have hothername := (hother.code_eq hothercode).2 finding hmem
    rw [Code.name_injective (hname.symm.trans hothername)]
  | none =>
    obtain rfl : other = judged := code?_injective hothercode
    obtain ⟨flow, -, -, hsemantic⟩ := hother
    exact absurd hname ((hsemantic finding hmem).2 code (reserved_of_code? hcode))

theorem Covers.unique (h : tier.Covers rules read result) (hother : other.Covers rules read result) : tier = other := by
  refine code?_injective ?_
  cases hcode : tier.code? with
  | some code => exact (h.code?_eq hother hcode).symm
  | none =>
    cases hothercode : other.code? with
    | none => rfl
    | some code => rw [← hcode, hother.code?_eq h hothercode]

/-! ### Every result is in a tier -/

theorem ofFindings_of_blocking {findings : List Finding} (h : ∀ finding ∈ findings, finding.isBlocking = true) :
    ValidationResult.ofFindings findings = ⟨findings, []⟩ := by
  have herrors : findings.filter (·.isBlocking) = findings := List.filter_eq_self.2 h
  have hwarnings : findings.filter (!·.isBlocking) = [] :=
    List.filter_eq_nil_iff.2 fun finding hmem => by simp [h finding hmem]
  rw [ValidationResult.ofFindings, herrors, hwarnings]

theorem mem_findings_ofFindings {findings : List Finding} {finding : Finding} :
    finding ∈ (ValidationResult.ofFindings findings).findings ↔ finding ∈ findings := by
  simp only [ValidationResult.findings, ValidationResult.ofFindings, List.mem_append, List.mem_filter]
  cases finding.isBlocking <;> simp

/-- The result for what reading came to is in the tier of that. -/
theorem covers_ofRead (hgrounded : ∀ error, read = .error error → error.Grounded) :
    (ofRead read).Covers rules read (.ofFindings (reported rules read)) := by
  cases read with
  | ok flow =>
    refine ⟨flow, rfl, rfl, fun finding hmem => ?_⟩
    exact Rule.isSemantic_of_run finding (mem_findings_ofFindings.1 hmem)
  | error error =>
    cases error with
    | malformed format message => exact ⟨_, rfl⟩
    | limitExceeded message => exact ⟨_, rfl⟩
    | schema findings =>
      obtain ⟨hne, hall⟩ := hgrounded _ rfl
      have hblocking : ∀ finding ∈ findings, finding.isBlocking = true := by
        intro finding hmem
        rw [Finding.isBlocking, (hall finding hmem).2]
        rfl
      rw [reported, DocumentError.findings, ofFindings_of_blocking hblocking]
      exact ⟨hne, hall, rfl⟩

theorem existsUnique_covers (hgrounded : ∀ error, read = .error error → error.Grounded)
    (hresult : result = .ofFindings (reported rules read)) : ∃! tier, Covers rules read result tier := by
  subst hresult
  exact ⟨ofRead read, covers_ofRead hgrounded, fun _ h => h.unique (covers_ofRead hgrounded)⟩

/-- A result that the rules did not make is the same under all settings, and in the same tier. -/
theorem Covers.of_settings {others : RuleSettings} {otherResult : ValidationResult}
    (hgrounded : ∀ error, read = .error error → error.Grounded) (hresult : result = .ofFindings (reported rules read))
    (hother : otherResult = .ofFindings (reported others read)) (hne : tier ≠ judged)
    (h : tier.Covers rules read result) : otherResult = result ∧ tier.Covers others read otherResult := by
  have hreported : reported others read = reported rules read := by
    cases read with
    | error error => rfl
    | ok flow =>
      rw [hresult] at h
      exact absurd (h.unique (covers_ofRead hgrounded)) hne
  have hsame : otherResult = result := by rw [hother, hresult, hreported]
  refine ⟨hsame, ?_⟩
  rw [hsame]
  -- only the last tier looks at the settings
  cases tier with
  | judged => exact absurd rfl hne
  | _ => exact h

/-- A tree is not a malformed text. -/
theorem not_covers_malformed {tree : Value}
    (hresult : result = .ofFindings (reported rules (Reading.flowOfTree limits tree))) :
    ¬malformed.Covers rules (Reading.flowOfTree limits tree) result := by
  intro h
  rw [hresult] at h
  have htier := h.unique (covers_ofRead fun _ => Reading.grounded_of_flowOfTree)
  cases hread : Reading.flowOfTree limits tree with
  | ok flow =>
    rw [hread] at htier
    cases htier
  | error error =>
    rw [hread] at htier
    rcases Reading.flowOfTree_eq_error.1 hread with hlimits | ⟨-, findings, -, rfl⟩
    · obtain ⟨message, rfl⟩ := exists_limitExceeded_of_toResult hlimits
      cases htier
    · cases htier

end Tier

/-- Every result is in exactly one tier, that for a tree not in the tier of malformed texts; and what is not judged by
the rules has the same result, in the same tier, under all settings. -/
theorem tiers_never_mix (rules : RuleSettings) (limits : InputLimits) :
    (∀ format text, ∃! tier : Tier,
      tier.Covers rules (Reading.flow limits format text) (validateText ⟨rules, limits⟩ format text)) ∧
    (∀ tree, (∃! tier : Tier, tier.Covers rules (Reading.flowOfTree limits tree) (validate ⟨rules, limits⟩ tree)) ∧
      ¬Tier.malformed.Covers rules (Reading.flowOfTree limits tree) (validate ⟨rules, limits⟩ tree)) ∧
    ∀ (others : RuleSettings) (tier : Tier), tier ≠ .judged →
      (∀ format text, tier.Covers rules (Reading.flow limits format text) (validateText ⟨rules, limits⟩ format text) →
        validateText ⟨others, limits⟩ format text = validateText ⟨rules, limits⟩ format text ∧
          tier.Covers others (Reading.flow limits format text) (validateText ⟨others, limits⟩ format text)) ∧
      ∀ tree, tier.Covers rules (Reading.flowOfTree limits tree) (validate ⟨rules, limits⟩ tree) →
        validate ⟨others, limits⟩ tree = validate ⟨rules, limits⟩ tree ∧
          tier.Covers others (Reading.flowOfTree limits tree) (validate ⟨others, limits⟩ tree) := by
  have htext := fun rules format text => validateText_eq_reported ⟨rules, limits⟩ format text
  have htree := fun rules tree => validate_eq_reported ⟨rules, limits⟩ tree
  refine ⟨fun format text => ?_, fun tree => ⟨?_, ?_⟩, fun others tier hne => ?_⟩
  · exact Tier.existsUnique_covers (fun _ => Reading.grounded_of_flow) (htext rules format text)
  · exact Tier.existsUnique_covers (fun _ => Reading.grounded_of_flowOfTree) (htree rules tree)
  · exact Tier.not_covers_malformed (htree rules tree)
  · constructor
    · intro format text h
      exact h.of_settings (fun _ => Reading.grounded_of_flow) (htext rules format text) (htext others format text) hne
    · intro tree h
      exact h.of_settings (fun _ => Reading.grounded_of_flowOfTree) (htree rules tree) (htree others tree) hne

/-- Settings that try to suppress the codes of the first three tiers. -/
def hushed : RuleSettings where
  disabled := ["PARSE_ERROR", "INPUT_LIMIT_EXCEEDED", "SCHEMA_VALIDATION_ERROR"]

theorem tiers_never_mix_when_hushed :
    (∃! tier : Tier, tier.Covers hushed (Reading.flow {} .json "nul") (validateText ⟨hushed, {}⟩ .json "nul")) ∧
      (Tier.misshapen ≠ .judged ∧
        Tier.misshapen.Covers hushed (Reading.flowOfTree {} .null) (validate ⟨hushed, {}⟩ .null)) ∧
      validate ⟨{}, {}⟩ .null = validate ⟨hushed, {}⟩ .null ∧
      ∃! tier : Tier, tier.Covers hushed (Reading.flowOfTree {} (.object Structure.terse))
        (validate ⟨hushed, {}⟩ (.object Structure.terse)) := by
  obtain ⟨htexts, htrees, hsettings⟩ := tiers_never_mix hushed {}
  have hne : Tier.misshapen ≠ .judged := by decide
  have hmisshapen : Tier.misshapen.Covers hushed (Reading.flowOfTree {} .null) (validate ⟨hushed, {}⟩ .null) :=
    ⟨List.cons_ne_nil _ _, List.forall_mem_singleton.2 ⟨rfl, rfl⟩, rfl⟩
  exact ⟨htexts .json "nul", ⟨hne, hmisshapen⟩, ((hsettings {} .misshapen hne).2 .null hmisshapen).1,
    (htrees (.object Structure.terse)).1⟩

example : validateText ⟨{ disabled := ["PARSE_ERROR"] }, {}⟩ .json "nul" =
    ⟨[.parseError "failed to parse JSON document: EOF while parsing a value at line 1 column 3"], []⟩ := by rfl

end FlowCheck
