import FlowCheck.Proofs.Rules.Levels
import FlowCheck.Proofs.WrittenFlows
import Mathlib.Data.List.Nodup

/-!
# The step graph of a valid flow is closed

When nothing is suppressed and no finding blocks, the rules on steps, on identifiers and on references together leave
only one hole: the fallback of a branch may be blank.  The rule on references leaves blank targets of a branch to the
rule on steps, which looks at the conditions only.

* Identifiers are not blank and differ; the routes of `next`, of failures and of conditions each name one step
  (`RoutesClosed`).
* A fallback names one step exactly if it is not blank, so the graph is closed exactly if no fallback is blank
  (`closed_iff_fallbacks_of_valid`).
-/

namespace FlowCheck

/-! ### Closed graphs -/

/-- Exactly one step has the identifier. -/
def Flow.Names (flow : Flow) (id : String) : Prop :=
  (flow.steps.map (·.id)).count id = 1

namespace StepKind

/-- Where the conditions of a branch lead. -/
def conditionTargets : StepKind → List String
  | .branch settings => settings.conditions.map (·.target)
  | _ => []

/-- Where a branch leads when no condition holds. -/
def fallback? : StepKind → Option String
  | .branch settings => settings.fallback
  | _ => none

end StepKind

/-- Identifiers tell steps apart, and all routes but the fallbacks of branches name one step. -/
structure Flow.RoutesClosed (flow : Flow) : Prop where
  id_not_blank : ∀ step ∈ flow.steps, Text.blank step.id = false
  ids_nodup : (flow.steps.map (·.id)).Nodup
  next : ∀ step ∈ flow.steps, ∀ target ∈ step.next, flow.Names target
  error : ∀ step ∈ flow.steps, ∀ target ∈ step.error, flow.Names target
  conditions : ∀ step ∈ flow.steps, ∀ target ∈ step.action.conditionTargets, flow.Names target

/-- Identifiers tell steps apart, and all routes name one step. -/
structure Flow.Closed (flow : Flow) : Prop extends flow.RoutesClosed where
  fallback : ∀ step ∈ flow.steps, ∀ target ∈ step.action.fallback?, flow.Names target

/-! ### Valid documents -/

theorem InputLimits.isBlocking_of_checkTree {limits : InputLimits} {tree : Value} {error : DocumentError}
    (h : limits.checkTree tree = .error error) : ∃ finding ∈ error.findings, finding.isBlocking = true := by
  unfold InputLimits.checkTree at h
  cases hexcess : limits.excess? tree with
  | none => simp [hexcess, InputLimits.toResult] at h
  | some excess =>
    rw [hexcess] at h
    cases h
    exact ⟨_, List.mem_singleton_self _, rfl⟩

/-- A valid document is read as a flow, on which no rule blocks if nothing is suppressed. -/
theorem exists_quiet_of_valid {config : ValidatorConfig} {tree : Value} (hdisabled : config.rules.disabled = [])
    (h : (validate config tree).valid = true) :
    ∃ flow, Reading.flowOfTree config.limits tree = .ok flow ∧
      ∀ rule : Rule, Quiet (rule.check flow config.rules) := by
  have hquiet : Quiet (Outcome.ofTree config tree).findings := valid_ofFindings.1 h
  unfold Outcome.ofTree at hquiet
  -- a document outside the limits and one that is not accepted have findings that block
  cases hlimits : config.limits.checkTree tree with
  | error error =>
    rw [hlimits] at hquiet
    obtain ⟨finding, hmem, hblocks⟩ := InputLimits.isBlocking_of_checkTree hlimits
    rw [hquiet finding hmem] at hblocks
    cases hblocks
  | ok u =>
    rw [hlimits] at hquiet
    cases hcheck : Structure.check tree with
    | error findings =>
      rw [hcheck] at hquiet
      obtain ⟨finding, hmem, hblocks⟩ := Structure.exists_isBlocking_of_check hcheck
      rw [hquiet finding hmem] at hblocks
      cases hblocks
    | ok flow =>
      have hread := flowOfTree_eq_ok.2 ⟨hlimits, hcheck⟩
      refine ⟨flow, hread, fun rule finding hmem => ?_⟩
      rw [hcheck] at hquiet
      have hshape : (Structure.shape flow).isEmpty = true :=
        Structure.shape_isEmpty_iff.2 (Structure.steps_ne_nil_of_check hcheck)
      -- nothing is suppressed, so the findings are those of all rules
      refine hquiet finding ?_
      simp only [Outcome.ofFlow, hshape, if_true, Outcome.findings]
      exact rule.mem_run hmem (by rw [hdisabled]; rfl)

/-! ### Identifiers -/

variable {flow : Flow} {steps : List Step}

theorem declared?_isSome {id : String} :
    (Graph.declared? steps id).isSome = true ↔ Text.blank id = false ∧ id ∈ steps.map (·.id) := by
  unfold Graph.declared?
  cases Text.blank id with
  | true => simp
  | false => simp

/-- Without blocking findings on identifiers, each step is where its identifier is declared. -/
theorem declared?_of_quiet (h : Quiet (Rules.duplicateStepIds flow)) (i : Nat) (hi : i < flow.steps.length) :
    Text.blank flow.steps[i].id = false ∧ Graph.declared? flow.steps flow.steps[i].id = some i := by
  have hquiet : Quiet (Rules.stepId flow.steps i flow.steps[i]) := quiet_flatten_mapIdx.1 h i hi
  unfold Rules.stepId at hquiet
  cases hblank : Text.blank flow.steps[i].id with
  | true =>
    simp only [hblank, if_true] at hquiet
    exact absurd (hquiet _ (List.mem_singleton_self _))
      (by simp [Finding.isBlocking, Finding.error, Severity.blocks])
  | false =>
    refine ⟨rfl, ?_⟩
    have hsome : (Graph.declared? flow.steps flow.steps[i].id).isSome = true :=
      declared?_isSome.2 ⟨hblank, List.mem_map_of_mem (List.getElem_mem hi)⟩
    obtain ⟨first, hfirst⟩ := Option.isSome_iff_exists.1 hsome
    simp only [hblank, hfirst, quiet_when_error, Bool.false_eq_true, if_false] at hquiet
    -- an identifier that is declared before its step is reported as a duplicate
    have hsame : first = i := by simpa using hquiet
    rw [hfirst, hsame]

theorem nodup_ids_of_quiet (h : Quiet (Rules.duplicateStepIds flow)) : (flow.steps.map (·.id)).Nodup := by
  rw [List.Nodup, List.pairwise_map, List.pairwise_iff_getElem]
  intro i j hi hj hij hid
  have hsame := (declared?_of_quiet h i hi).2
  rw [hid, (declared?_of_quiet h j hj).2, Option.some.injEq] at hsame
  omega

/-- An identifier that is declared among different ones names one step. -/
theorem names_of_declared (hnodup : (flow.steps.map (·.id)).Nodup) {id : String}
    (h : (Graph.declared? flow.steps id).isSome = true) : flow.Names id :=
  List.count_eq_one_of_mem hnodup (declared?_isSome.1 h).2

/-! ### Routes -/

theorem mem_branchRoutes_of_condition {path : Path} {action : StepKind} {target : String}
    (h : target ∈ action.conditionTargets) : ∃ place, (place, target) ∈ Rules.branchRoutes path action := by
  cases action with
  | branch settings =>
    obtain ⟨condition, hcondition, rfl⟩ := List.mem_map.1 h
    obtain ⟨i, hi, rfl⟩ := List.mem_iff_getElem.1 hcondition
    exact ⟨_, List.mem_append_left _ (List.mem_mapIdx.2 ⟨i, hi, rfl⟩)⟩
  | _ => cases h

theorem mem_branchRoutes_of_fallback {path : Path} {action : StepKind} {target : String}
    (h : target ∈ action.fallback?) : ∃ place, (place, target) ∈ Rules.branchRoutes path action := by
  cases action with
  | branch settings =>
    exact ⟨_, List.mem_append_right _ (List.mem_map.2 ⟨target, Option.mem_toList.2 h, rfl⟩)⟩
  | _ => cases h

/-- What the rule on references asks of one step: blank targets of a branch are left alone. -/
theorem references_of_quiet (h : Quiet (Rules.stepReferences flow)) {step : Step} (hstep : step ∈ flow.steps) :
    (∀ target ∈ step.next, (Graph.declared? flow.steps target).isSome = true) ∧
    (∀ target ∈ step.error, (Graph.declared? flow.steps target).isSome = true) ∧
    (∀ target ∈ step.action.conditionTargets, Text.blank target = false →
      (Graph.declared? flow.steps target).isSome = true) ∧
    (∀ target ∈ step.action.fallback?, Text.blank target = false →
      (Graph.declared? flow.steps target).isSome = true) := by
  obtain ⟨i, hi, rfl⟩ := List.mem_iff_getElem.1 hstep
  have hquiet : Quiet (Rules.references flow.steps i flow.steps[i]) := quiet_flatten_mapIdx.1 h i hi
  simp only [Rules.references, quiet_append, quiet_flatten_mapIdx, quiet_flatten_map, quiet_when_error] at hquiet
  obtain ⟨⟨hnext, herror⟩, hbranch⟩ := hquiet
  simp only [Option.isNone_eq_false_iff] at hnext herror
  have hdeclared : ∀ target,
      (∃ place, (place, target) ∈ Rules.branchRoutes (Rules.stepPath i) flow.steps[i].action) →
      Text.blank target = false → (Graph.declared? flow.steps target).isSome = true := by
    rintro target ⟨place, hroute⟩ hblank
    simpa [hblank] using hbranch _ hroute
  refine ⟨fun target htarget => ?_, fun target htarget => herror target (Option.mem_toList.2 htarget),
    fun target htarget => hdeclared target (mem_branchRoutes_of_condition htarget),
    fun target htarget => hdeclared target (mem_branchRoutes_of_fallback htarget)⟩
  obtain ⟨j, hj, rfl⟩ := List.mem_iff_getElem.1 htarget
  exact hnext j hj

/-- The rule on steps reports the conditions of a branch that lead nowhere. -/
theorem condition_not_blank_of_quiet (h : Quiet (Rules.steps flow)) {step : Step} (hstep : step ∈ flow.steps)
    {target : String} (htarget : target ∈ step.action.conditionTargets) : Text.blank target = false := by
  obtain ⟨i, hi, rfl⟩ := List.mem_iff_getElem.1 hstep
  have hquiet := quiet_flatten_mapIdx.1 h i hi
  cases haction : flow.steps[i].action with
  | branch settings =>
    rw [haction] at htarget hquiet
    obtain ⟨condition, hcondition, rfl⟩ := List.mem_map.1 htarget
    obtain ⟨j, hj, rfl⟩ := List.mem_iff_getElem.1 hcondition
    simp only [Rules.stepKind, quiet_append, quiet_flatten_mapIdx, Rules.branchCondition, Rules.requireText,
      quiet_when_error] at hquiet
    exact (hquiet.2 j hj).2
  | _ =>
    rw [haction] at htarget
    cases htarget

/-! ### Valid flows -/

/-- The flow of a valid document is closed but for the fallbacks of branches, and it is closed exactly if these
are not blank. -/
theorem closed_iff_fallbacks_of_valid {config : ValidatorConfig} {tree : Value} (hdisabled : config.rules.disabled = [])
    (h : (validate config tree).valid = true) :
    ∃ flow, Reading.flowOfTree config.limits tree = .ok flow ∧ flow.RoutesClosed ∧
      (∀ step ∈ flow.steps, ∀ target ∈ step.action.fallback?, (flow.Names target ↔ Text.blank target = false)) ∧
      (flow.Closed ↔ ∀ step ∈ flow.steps, ∀ target ∈ step.action.fallback?, Text.blank target = false) := by
  obtain ⟨flow, hread, hquiet⟩ := exists_quiet_of_valid hdisabled h
  have hnodup := nodup_ids_of_quiet (hquiet .duplicateStepIds)
  have hblank : ∀ step ∈ flow.steps, Text.blank step.id = false := by
    intro step hstep
    obtain ⟨i, hi, rfl⟩ := List.mem_iff_getElem.1 hstep
    exact (declared?_of_quiet (hquiet .duplicateStepIds) i hi).1
  have hroutes : flow.RoutesClosed := by
    refine ⟨hblank, hnodup, ?_, ?_, ?_⟩
    · intro step hstep target htarget
      obtain ⟨hnext, -, -, -⟩ := references_of_quiet (hquiet .stepReferences) hstep
      exact names_of_declared hnodup (hnext target htarget)
    · intro step hstep target htarget
      obtain ⟨-, herror, -, -⟩ := references_of_quiet (hquiet .stepReferences) hstep
      exact names_of_declared hnodup (herror target htarget)
    · intro step hstep target htarget
      obtain ⟨-, -, hconditions, -⟩ := references_of_quiet (hquiet .stepReferences) hstep
      have hne := condition_not_blank_of_quiet (hquiet .steps) hstep htarget
      exact names_of_declared hnodup (hconditions target htarget hne)
  -- no rule looks at a blank fallback
  have hfallback : ∀ step ∈ flow.steps, ∀ target ∈ step.action.fallback?,
      (flow.Names target ↔ Text.blank target = false) := by
    intro step hstep target htarget
    constructor
    · intro hnames
      have hmem : target ∈ flow.steps.map (·.id) := List.count_pos_iff.1 (by rw [hnames]; decide)
      obtain ⟨named, hnamed, rfl⟩ := List.mem_map.1 hmem
      exact hblank named hnamed
    · intro hne
      obtain ⟨-, -, -, hfallbacks⟩ := references_of_quiet (hquiet .stepReferences) hstep
      exact names_of_declared hnodup (hfallbacks target htarget hne)
  refine ⟨flow, hread, hroutes, hfallback, ?_⟩
  constructor
  · exact fun hclosed step hstep target htarget =>
      (hfallback step hstep target htarget).1 (hclosed.fallback step hstep target htarget)
  · exact fun hne => ⟨hroutes, fun step hstep target htarget =>
      (hfallback step hstep target htarget).2 (hne step hstep target htarget)⟩

/-! ### A blank fallback -/

/-- A document with a branch whose fallback is blank. -/
def strayFallback : List (String × Value) :=
  [("metadata", .object [("name", .string "f"), ("version", .string "1.0.0")]),
    ("steps", .list [
      .object [("id", .string "a"), ("name", .string "A"),
        ("step", .object [("conditions", .list [.object [("condition", .string "c"), ("target", .string "b")]]),
          ("default", .string " "), ("type", .string "branch")])],
      .object [("id", .string "b"), ("name", .string "B"),
        ("step", .object [("expression", .string "x"), ("type", .string "map")])]])]

/-- What the document with the blank fallback is read as. -/
def strayFallbackFlow : Flow where
  metadata := ⟨"f", "1.0.0", none, none, [], [], none, none⟩
  triggers := []
  steps := [⟨"a", "A", none, .branch ⟨[⟨"c", "b"⟩], some " "⟩, none, [], [], none⟩,
    ⟨"b", "B", none, .map ⟨"x", none⟩, none, [], [], none⟩]
  observability := none

private theorem flowOfTree_strayFallback :
    Reading.flowOfTree {} (.object strayFallback) = .ok strayFallbackFlow := rfl

private theorem valid_strayFallback : (validate {} (.object strayFallback)).valid = true := by
  have hsame : validate {} (.object strayFallback) = validateFlow {} strayFallbackFlow :=
    validate_eq_validateFlow flowOfTree_strayFallback
  rw [hsame]
  exact valid_ofFindings.2 (Rule.quiet_run (by decide) (by decide) (by decide +kernel))

theorem closed_iff_fallbacks_of_strayFallback :
    ({} : ValidatorConfig).rules.disabled = [] ∧ (validate {} (.object strayFallback)).valid = true ∧
      ∃ flow, Reading.flowOfTree {} (.object strayFallback) = .ok flow ∧ flow.RoutesClosed ∧
        (∀ step ∈ flow.steps, ∀ target ∈ step.action.fallback?, (flow.Names target ↔ Text.blank target = false)) ∧
        (flow.Closed ↔ ∀ step ∈ flow.steps, ∀ target ∈ step.action.fallback?, Text.blank target = false) :=
  ⟨rfl, valid_strayFallback, closed_iff_fallbacks_of_valid rfl valid_strayFallback⟩

/-- A valid document whose step graph is not closed: its branch falls back on a step that does not exist. -/
theorem valid_flow_not_closed :
    ¬∀ (config : ValidatorConfig) (tree : Value), config.rules.disabled = [] →
      (validate config tree).valid = true →
      ∃ flow, Reading.flowOfTree config.limits tree = .ok flow ∧ flow.Closed := by
  intro h
  obtain ⟨flow, hread, hclosed⟩ := h {} (.object strayFallback) rfl valid_strayFallback
  obtain rfl : flow = strayFallbackFlow := Except.ok.inj (hread.symm.trans flowOfTree_strayFallback)
  have hnames : strayFallbackFlow.Names " " := hclosed.fallback _ List.mem_cons_self " " rfl
  exact absurd hnames (by unfold Flow.Names; decide)

end FlowCheck
