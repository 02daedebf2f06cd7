import FlowCheck.Proofs.Rules.Levels
import FlowCheck.Proofs.WrittenFlows

/-!
# Reading and validating agree

A reader of flows and the validator each go through limits, structure and shape on their own.  They come to the
same end on every document: the findings of a result are those of the error that reading ended with, or of the
rules on the flow that was read (`findings_ofTree`, `findings_ofText`).

That a rejected document is invalid needs more: an error without a finding that blocks would pass as valid.
Every error has one (`Grounded`), since a structure that is rejected is rejected for a reason
(`grounded_of_check`).
-/

namespace FlowCheck

variable {config : ValidatorConfig} {limits : InputLimits} {format : InputFormat} {text : String} {tree : Value}
  {flow : Flow} {error : DocumentError}

/-! ### Errors have findings -/

/-- The finding says that the document does not have the structure of a flow. -/
def Finding.IsStructural (finding : Finding) : Prop :=
  finding.code = Code.schemaValidationError.name ∧ finding.severity = .error

/-- An error about the structure has findings, and all of them are about the structure. -/
def DocumentError.Grounded : DocumentError → Prop
  | malformed _ _ | limitExceeded _ => True
  | schema findings => findings ≠ [] ∧ ∀ finding ∈ findings, finding.IsStructural

theorem DocumentError.Grounded.exists_isBlocking (h : error.Grounded) :
    ∃ finding ∈ error.findings, finding.isBlocking = true := by
  cases error with
  | malformed format message => exact ⟨_, List.mem_singleton_self _, rfl⟩
  | limitExceeded message => exact ⟨_, List.mem_singleton_self _, rfl⟩
  | schema findings =>
    obtain ⟨hne, hall⟩ := h
    obtain ⟨finding, hmem⟩ := List.exists_mem_of_ne_nil _ hne
    refine ⟨finding, hmem, ?_⟩
    rw [Finding.isBlocking, (hall finding hmem).2]
    rfl

theorem DocumentError.Grounded.not_valid (h : error.Grounded) :
    (ValidationResult.ofFindings error.findings).valid = false := by
  obtain ⟨finding, hmem, hblocks⟩ := h.exists_isBlocking
  rw [Bool.eq_false_iff]
  intro hvalid
  rw [valid_ofFindings.1 hvalid finding hmem] at hblocks
  cases hblocks

/-- The limits only say that something is too large. -/
theorem exists_limitExceeded_of_toResult {excess : Option Excess} (h : InputLimits.toResult excess = .error error) :
    ∃ message, error = .limitExceeded message := by
  cases excess with
  | none => cases h
  | some excess =>
    cases h
    exact ⟨_, rfl⟩

theorem grounded_of_check {findings : List Finding} (h : Structure.check tree = .error findings) :
    (DocumentError.schema findings).Grounded := by
  refine ⟨?_, ?_⟩
  · rintro rfl
    obtain ⟨finding, hmem, -⟩ := Structure.exists_isBlocking_of_check h
    exact List.not_mem_nil hmem
  · cases tree with
    | object fields =>
      intro finding hmem
      obtain ⟨path, message, rfl⟩ := Structure.located_of_check_object h finding hmem
      exact ⟨rfl, rfl⟩
    | _ =>
      cases h
      exact List.forall_mem_singleton.2 ⟨rfl, rfl⟩

/-! ### Reading in stages -/

namespace Reading

theorem flowOfTree_eq_error :
    flowOfTree limits tree = .error error ↔
      limits.checkTree tree = .error error ∨
        limits.checkTree tree = .ok () ∧
          ∃ findings, Structure.check tree = .error findings ∧ .schema findings = error := by
  simp only [flowOfTree]
  cases limits.checkTree tree with
  | error e => simp [bind, Except.bind]
  | ok u => cases Structure.check tree <;> simp [bind, Except.bind, Except.mapError]

/-- Reading a tree ends in one of three ways; a tree that was read is within the limits. -/
theorem tree_cases (limits : InputLimits) (format : InputFormat) (text : String) :
    (∃ message, Reading.tree limits format text = .error (.malformed (format.resolve text) message)) ∨
      (∃ message, Reading.tree limits format text = .error (.limitExceeded message)) ∨
      ∃ tree, Reading.tree limits format text = .ok tree ∧ limits.checkTree tree = .ok () := by
  simp only [Reading.tree, bind, Except.bind]
  cases htext : limits.checkText text with
  | error error =>
    obtain ⟨message, rfl⟩ := exists_limitExceeded_of_toResult htext
    exact Or.inr (Or.inl ⟨message, rfl⟩)
  | ok u =>
    cases decode (format.resolve text) text with
    | error message => exact Or.inl ⟨message, rfl⟩
    | ok read =>
      simp only [Except.mapError]
      cases hlimits : limits.checkTree read with
      | error error =>
        obtain ⟨message, rfl⟩ := exists_limitExceeded_of_toResult hlimits
        exact Or.inr (Or.inl ⟨message, rfl⟩)
      | ok u => exact Or.inr (Or.inr ⟨read, rfl, hlimits⟩)

/-- The flow of a text is that of its tree. -/
theorem flow_eq_flowOfTree (h : Reading.tree limits format text = .ok tree) :
    Reading.flow limits format text = flowOfTree limits tree := by
  have hlimits : limits.checkTree tree = .ok () := by
    rcases tree_cases limits format text with ⟨_, hread⟩ | ⟨_, hread⟩ | ⟨read, hread, hlimits⟩
    · cases hread.symm.trans h
    · cases hread.symm.trans h
    · cases hread.symm.trans h
      exact hlimits
  simp only [Reading.flow, flowOfTree, h, hlimits, bind, Except.bind]

theorem flow_eq_error_of_tree (h : Reading.tree limits format text = .error error) :
    Reading.flow limits format text = .error error := by
  simp only [Reading.flow, h, bind, Except.bind]

theorem grounded_of_flowOfTree (h : flowOfTree limits tree = .error error) : error.Grounded := by
  rcases flowOfTree_eq_error.1 h with hlimits | ⟨-, findings, hcheck, rfl⟩
  · obtain ⟨message, rfl⟩ := exists_limitExceeded_of_toResult hlimits
    trivial
  · exact grounded_of_check hcheck

theorem grounded_of_flow (h : Reading.flow limits format text = .error error) : error.Grounded := by
  rcases tree_cases limits format text with ⟨message, hread⟩ | ⟨message, hread⟩ | ⟨tree, hread, -⟩
  · cases (flow_eq_error_of_tree hread).symm.trans h
    trivial
  · cases (flow_eq_error_of_tree hread).symm.trans h
    trivial
  · rw [flow_eq_flowOfTree hread] at h
    exact grounded_of_flowOfTree h

theorem steps_ne_nil_of_flowOfTree (h : flowOfTree limits tree = .ok flow) : flow.steps ≠ [] :=
  Structure.steps_ne_nil_of_check (flowOfTree_eq_ok.1 h).2

theorem steps_ne_nil_of_flow (h : Reading.flow limits format text = .ok flow) : flow.steps ≠ [] := by
  cases htree : Reading.tree limits format text with
  | error e =>
    rw [flow_eq_error_of_tree htree] at h
    cases h
  | ok tree =>
    rw [flow_eq_flowOfTree htree] at h
    exact steps_ne_nil_of_flowOfTree h

end Reading

/-! ### The validator in stages -/

/-- The findings for what reading came to: those of the error, or of the rules on the flow. -/
def reported (rules : RuleSettings) : Except DocumentError Flow → List Finding
  | .error error => error.findings
  | .ok flow => Rule.run flow rules

theorem findings_ofFlow (h : flow.steps ≠ []) :
    (Outcome.ofFlow config flow).findings = Rule.run flow config.rules := by
  rw [Outcome.ofFlow, if_pos (Structure.shape_isEmpty_iff.2 h)]
  rfl

theorem findings_ofTree (config : ValidatorConfig) (tree : Value) :
    (Outcome.ofTree config tree).findings = reported config.rules (Reading.flowOfTree config.limits tree) := by
  cases hread : Reading.flowOfTree config.limits tree with
  | error error =>
    rcases Reading.flowOfTree_eq_error.1 hread with hlimits | ⟨hlimits, findings, hcheck, rfl⟩
    · simp only [Outcome.ofTree, hlimits, Outcome.findings, reported]
    · simp only [Outcome.ofTree, hlimits, hcheck, Outcome.findings, reported, DocumentError.findings]
  | ok flow =>
    obtain ⟨hlimits, hcheck⟩ := flowOfTree_eq_ok.1 hread
    simp only [Outcome.ofTree, hlimits, hcheck, reported]
    exact findings_ofFlow (Structure.steps_ne_nil_of_check hcheck)

theorem ofText_eq_ofTree (h : Reading.tree config.limits format text = .ok tree) :
    Outcome.ofText config format text = Outcome.ofTree config tree := by
  simp only [Outcome.ofText, h]

theorem findings_ofText (config : ValidatorConfig) (format : InputFormat) (text : String) :
    (Outcome.ofText config format text).findings = reported config.rules (Reading.flow config.limits format text) := by
  cases htree : Reading.tree config.limits format text with
  | error error =>
    rw [Reading.flow_eq_error_of_tree htree]
    simp only [Outcome.ofText, htree, Outcome.findings, reported]
  | ok tree => rw [ofText_eq_ofTree htree, Reading.flow_eq_flowOfTree htree, findings_ofTree]

theorem validate_eq_reported (config : ValidatorConfig) (tree : Value) :
    validate config tree = .ofFindings (reported config.rules (Reading.flowOfTree config.limits tree)) := by
  rw [validate, Outcome.result, findings_ofTree]

theorem validateText_eq_reported (config : ValidatorConfig) (format : InputFormat) (text : String) :
    validateText config format text = .ofFindings (reported config.rules (Reading.flow config.limits format text)) := by
  rw [validateText, Outcome.result, findings_ofText]

/-! ### Agreement -/

/-- A result agrees with what reading a document came to. -/
structure Agrees (config : ValidatorConfig) (read : Except DocumentError Flow) (result : ValidationResult) : Prop where
  /-- What cannot be read is reported as the error says, and is invalid. -/
  rejected : ∀ error, read = .error error → result = .ofFindings error.findings ∧ result.valid = false
  /-- What is read is judged by the rules, as the flow alone would be. -/
  judged : ∀ flow, read = .ok flow →
    result = .ofFindings (Rule.run flow config.rules) ∧ result = validateFlow config flow
  /-- What is valid was read, and no finding of the rules blocks. -/
  read_of_valid : result.valid = true → ∃ flow, read = .ok flow ∧ Quiet (Rule.run flow config.rules)

/-- A result with the findings for what was read agrees with it, when errors have findings and flows have steps. -/
theorem agrees_of_reported {read : Except DocumentError Flow} {result : ValidationResult}
    (hresult : result = .ofFindings (reported config.rules read))
    (hgrounded : ∀ error, read = .error error → error.Grounded) (hsteps : ∀ flow, read = .ok flow → flow.steps ≠ []) :
    Agrees config read result := by
  subst hresult
  refine ⟨?_, ?_, fun hvalid => ?_⟩
  · rintro error rfl
    exact ⟨rfl, (hgrounded error rfl).not_valid⟩
  · rintro flow rfl
    refine ⟨rfl, ?_⟩
    rw [validateFlow, Outcome.result, findings_ofFlow (hsteps flow rfl)]
    rfl
  · cases read with
    | error error =>
      have hinvalid := (hgrounded error rfl).not_valid
      rw [reported, hinvalid] at hvalid
      cases hvalid
    | ok flow => exact ⟨flow, rfl, valid_ofFindings.1 hvalid⟩

/-- Reader and validator agree on every text and on every tree, and the result for a text that says a tree is that for
the tree. -/
theorem validator_agrees_with_reader (config : ValidatorConfig) :
    (∀ format text, Agrees config (Reading.flow config.limits format text) (validateText config format text)) ∧
      (∀ tree, Agrees config (Reading.flowOfTree config.limits tree) (validate config tree)) ∧
      ∀ format text tree, Reading.tree config.limits format text = .ok tree →
        validateText config format text = validate config tree := by
  refine ⟨fun format text => ?_, fun tree => ?_, fun format text tree h => ?_⟩
  · exact agrees_of_reported (validateText_eq_reported config format text) (fun _ => Reading.grounded_of_flow)
      fun _ => Reading.steps_ne_nil_of_flow
  · exact agrees_of_reported (validate_eq_reported config tree) (fun _ => Reading.grounded_of_flowOfTree)
      fun _ => Reading.steps_ne_nil_of_flowOfTree
  · rw [validateText, validate, ofText_eq_ofTree h]

theorem quiet_run_terseFlow : Quiet (Rule.run terseFlow {}) :=
  Rule.quiet_run (by decide) (by decide) (by decide +kernel)

theorem validator_agrees_with_reader_on_documents :
    (Reading.tree {} .json "null" = .ok .null ∧ validateText {} .json "null" = validate {} .null) ∧
      (Reading.flowOfTree {} .null = .error (.schema [.schemaRoot "flow document must be a mapping, found null"]) ∧
        (validate {} .null).valid = false) ∧
      (Reading.flowOfTree {} (.object Structure.terse) = .ok terseFlow ∧
        validate {} (.object Structure.terse) = .ofFindings (Rule.run terseFlow {})) ∧
      (validate {} (.object Structure.terse)).valid = true ∧
      ∃ flow, Reading.flowOfTree {} (.object Structure.terse) = .ok flow ∧ Quiet (Rule.run flow {}) := by
  obtain ⟨-, htrees, htexts⟩ := validator_agrees_with_reader {}
  have hnull : Reading.tree {} .json "null" = .ok .null := by rfl
  have hterse : Reading.flowOfTree {} (.object Structure.terse) = .ok terseFlow := rfl
  have hjudged := ((htrees (.object Structure.terse)).judged terseFlow hterse).1
  have hvalid : (validate {} (.object Structure.terse)).valid = true := by
    rw [hjudged]
    exact valid_ofFindings.2 quiet_run_terseFlow
  exact ⟨⟨hnull, htexts .json "null" .null hnull⟩, ⟨rfl, ((htrees .null).rejected _ rfl).2⟩, ⟨hterse, hjudged⟩, hvalid,
    (htrees (.object Structure.terse)).read_of_valid hvalid⟩

end FlowCheck
