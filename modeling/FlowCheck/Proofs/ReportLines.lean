import FlowCheck.Proofs.Rules.LineFeeds
import FlowCheck.Proofs.Structure.Acceptance
import FlowCheck.Proofs.Structure.LineFeeds
import FlowCheck.Proofs.Tiers

/-!
# Reports line by line

The report of a result has a header and, under a title for each kind, one line for each finding.  Messages quote
some texts of the document as they are, so that a document can break or forge lines (`name_breaks_report`);
nothing else can.  For whatever is validated, a tree, a flow or a text, each line feed in a finding is one of a
text of the document that stands in the finding (`Outcome.breaksFrom_ofTree`).  So a report can be read line by
line exactly if no text with a line feed stands in one of its findings (`report_isLined_iff`): texts over
several lines, such as scripts, do no harm where no message quotes them, and what is wrong with a text that is
no document is told on one line.
-/

namespace FlowCheck

open Text

variable {config : ValidatorConfig} {tree : Value} {flow : Flow} {format : InputFormat} {text : String}
  {sources : List String}

/-! ### Limits and malformed texts -/

theorem Excess.oneLine_message (excess : Excess) : OneLine excess.message := by
  have hmeasure : ∀ {opening middle closing : String} {n bound : Nat}, OneLine opening → OneLine middle →
      OneLine closing → OneLine (opening ++ toString n ++ middle ++ toString bound ++ closing) :=
    fun hopening hmiddle hclosing =>
      (oneLine_repr _).between ((oneLine_repr _).between hopening hmiddle) hclosing
  cases excess with
  | bytes n bound | depth n bound | steps n bound | triggers n bound =>
    exact hmeasure (by decide) (by decide) (by decide)
  | farTooDeep bound => exact (oneLine_repr bound).between (by decide) (by decide)
  | policies i n bound =>
    exact oneLine_append.2 ⟨hmeasure (by decide) (by decide) (by decide), oneLine_repr bound⟩

theorem breaksFrom_limitExceeded {excess : Option Excess} {error : DocumentError}
    (h : InputLimits.toResult excess = .error error) : ∀ finding ∈ error.findings, finding.BreaksFrom sources := by
  have hdocument : OneLine "<document>" := by decide
  cases excess with
  | none => cases h
  | some excess =>
    cases h
    exact List.forall_mem_singleton.2 (breaksFrom_of_message hdocument excess.oneLine_message.breaksFrom)

theorem breaksFrom_malformed {message : String} (h : OneLine message) :
    ∀ finding ∈ (DocumentError.malformed format message).findings, finding.BreaksFrom sources := by
  have hdocument : OneLine "<document>" := by decide
  have hformat : OneLine format.text := by cases format <;> decide
  have hmessage : OneLine (DocumentError.malformed format message).text :=
    oneLine_append.2 ⟨hformat.between (by decide) (by decide), h⟩
  exact List.forall_mem_singleton.2 (breaksFrom_of_message hdocument hmessage.breaksFrom)

/-- What is wrong with a text that is not JSON is told on one line. -/
theorem Json.oneLine_of_read {message : String} (h : Json.read text = .error message) : OneLine message := by
  unfold Json.read at h
  cases hdocument : Json.document text.toList with
  | ok v =>
    rw [hdocument] at h
    cases h
  | error failure =>
    rw [hdocument] at h
    cases h
    have hfault : OneLine failure.fault.message := by cases failure.fault <;> decide
    exact oneLine_append.2 ⟨hfault, oneLine_append.2 ⟨(oneLine_repr _).between (by decide) (by decide), oneLine_repr _⟩⟩

/-! ### Outcomes -/

namespace Outcome

/-- A line feed in a finding on a flow is one of a text of the flow. -/
theorem breaksFrom_ofFlow :
    ∀ finding ∈ (ofFlow config flow).findings, finding.BreaksFrom (Flow.record.heldTexts flow) := by
  unfold ofFlow
  split
  · exact Rule.breaksFrom_of_run
  · exact Structure.breaksFrom_shape flow

theorem heldTexts_subset_of_check (h : Structure.check tree = .ok flow) : Flow.record.heldTexts flow ⊆ tree.texts := by
  have hdefaults : Flow.record.defaultTexts = [] := rfl
  refine Record.heldTexts_subset_of_decode Flow.record ?_ (List.Subset.refl _) (Structure.decode_of_check h)
  rw [hdefaults]
  exact List.nil_subset _

/-- A line feed in a finding on a tree is one of a text of the tree. -/
theorem breaksFrom_ofTree : ∀ finding ∈ (ofTree config tree).findings, finding.BreaksFrom tree.texts := by
  unfold ofTree
  split
  · rename_i error hlimits
    exact breaksFrom_limitExceeded hlimits
  · split
    · rename_i findings hcheck
      exact Structure.breaksFrom_of_check hcheck
    · rename_i flow hcheck
      intro finding hfinding
      exact Text.BreaksFrom.mono (breaksFrom_ofFlow finding hfinding) (heldTexts_subset_of_check hcheck)

/-- A text that is too long or no document is not quoted, so what is quoted are texts of its tree. -/
theorem breaksFrom_ofText (htree : ∀ tree, Reading.decode (format.resolve text) text = .ok tree → tree.texts ⊆ sources)
    (hmalformed : ∀ message, Reading.decode (format.resolve text) text = .error message → OneLine message) :
    ∀ finding ∈ (ofText config format text).findings, finding.BreaksFrom sources := by
  unfold ofText
  simp only [Reading.tree, bind, Except.bind]
  cases hlength : config.limits.checkText text with
  | error error => exact breaksFrom_limitExceeded hlength
  | ok u =>
    cases hdecode : Reading.decode (format.resolve text) text with
    | error message => exact breaksFrom_malformed (hmalformed message hdecode)
    | ok tree =>
      simp only [Except.mapError]
      cases hlimits : config.limits.checkTree tree with
      | error error => exact breaksFrom_limitExceeded hlimits
      | ok u =>
        intro finding hfinding
        exact Text.BreaksFrom.mono (breaksFrom_ofTree finding hfinding) (htree tree hdecode)

theorem isLined_iff_quotesLines {outcome : Outcome} (h : ∀ finding ∈ outcome.findings, finding.BreaksFrom sources) :
    outcome.result.IsLined ↔ outcome.result.QuotesLines sources :=
  ValidationResult.isLined_iff_quotesLines fun finding hfinding =>
    h finding (Tier.mem_findings_ofFindings.1 hfinding)

end Outcome

/-- The report on a tree, a flow or the text of a tree can be read line by line exactly if no text of it with a line
feed stands in a finding, and so can the report on a text that is malformed. -/
theorem report_isLined_iff (config : ValidatorConfig) :
    (∀ tree, (validate config tree).IsLined ↔ (validate config tree).QuotesLines tree.texts) ∧
      (∀ flow, (validateFlow config flow).IsLined ↔
        (validateFlow config flow).QuotesLines (Flow.record.heldTexts flow)) ∧
      ∀ format text,
        (∀ tree, Reading.decode (format.resolve text) text = .ok tree →
          ((validateText config format text).IsLined ↔ (validateText config format text).QuotesLines tree.texts)) ∧
        ∀ message, Reading.decode (format.resolve text) text = .error message →
          format.resolve text = .json ∨ OneLine message → (validateText config format text).IsLined := by
  refine ⟨fun tree => ?_, fun flow => ?_, fun format text => ⟨?_, ?_⟩⟩
  · exact Outcome.isLined_iff_quotesLines Outcome.breaksFrom_ofTree
  · exact Outcome.isLined_iff_quotesLines Outcome.breaksFrom_ofFlow
  · intro tree htree
    refine Outcome.isLined_iff_quotesLines (Outcome.breaksFrom_ofText ?_ ?_)
    · intro other hother
      cases htree.symm.trans hother
      exact List.Subset.refl _
    · intro message hmessage
      cases htree.symm.trans hmessage
  · intro message hmalformed honeLine
    have hmessage : OneLine message := by
      rcases honeLine with hjson | honeLine
      · rw [hjson] at hmalformed
        exact Json.oneLine_of_read hmalformed
      · exact honeLine
    -- There is no tree, so nothing is quoted and no text need be asked about.
    have hnothing : ∀ finding ∈ (Outcome.ofText config format text).findings, finding.BreaksFrom [] :=
      Outcome.breaksFrom_ofText (fun tree htree => nomatch htree.symm.trans hmalformed) fun other hother => by
        cases hmalformed.symm.trans hother
        exact hmessage
    exact (Outcome.isLined_iff_quotesLines hnothing).2 fun _ _ _ h => absurd h List.not_mem_nil

/-- Settings under which no rule looks for steps that cannot be reached. -/
def unreachableAllowed : ValidatorConfig where
  rules := { unreachableSteps := .allow }

/-- A document with a script over two lines and a step that leads nowhere. -/
def longScript : Value :=
  .object [
    ("metadata", .object [("name", .string "f"), ("version", .string "1.0.0")]),
    ("steps", .list [.object [("id", .string "a"), ("name", .string "A"), ("next", .list [.string "b"]),
      ("step", .object [("code", .string "x = 1\ny = 2"), ("type", .string "script")])]])]

theorem report_on_longScript_isLined :
    ((∃ s ∈ longScript.texts, ¬OneLine s) ∧ (validate unreachableAllowed longScript).findings ≠ [] ∧
        (validate unreachableAllowed longScript).IsLined) ∧
      (Reading.decode (InputFormat.json.resolve "null") "null" = .ok .null ∧
        (validateText unreachableAllowed .json "null").IsLined) ∧
      ∃ message, Reading.decode (InputFormat.json.resolve "nul") "nul" = .error message ∧
        (validateText unreachableAllowed .json "nul").IsLined := by
  obtain ⟨htrees, -, htexts⟩ := report_isLined_iff unreachableAllowed
  have hscript : (validate unreachableAllowed longScript).QuotesLines longScript.texts := by
    unfold ValidationResult.QuotesLines
    decide +kernel
  have hnull : Reading.decode (InputFormat.json.resolve "null") "null" = .ok .null := by decide +kernel
  have hnothing : (validateText unreachableAllowed .json "null").QuotesLines Value.null.texts :=
    fun _ _ _ h => absurd h List.not_mem_nil
  have hmalformed : Reading.decode (InputFormat.json.resolve "nul") "nul" =
      .error "EOF while parsing a value at line 1 column 3" := by decide +kernel
  exact ⟨⟨by decide +kernel, by decide +kernel, (htrees longScript).2 hscript⟩,
    ⟨hnull, ((htexts .json "null").1 .null hnull).2 hnothing⟩,
    _, hmalformed, (htexts .json "nul").2 _ hmalformed (.inl rfl)⟩

/-- A document with a step without an identifier whose name has a line feed. -/
def twoLineName : Value :=
  .object [
    ("metadata", .object [("name", .string "f"), ("version", .string "1.0.0")]),
    ("steps", .list [.object [("id", .string " "), ("name", .string "A\nB"),
      ("step", .object [("expression", .string "x"), ("type", .string "map")])]])]

/-- The name of a step can break the line of a finding. -/
theorem name_breaks_report : ¬∀ (config : ValidatorConfig) (tree : Value), (validate config tree).IsLined := by
  intro h
  exact absurd (ValidationResult.isLined_iff.1 (h {} twoLineName)) (by decide +kernel)

end FlowCheck
