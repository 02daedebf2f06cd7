import FlowCheck.Proofs.Rules.Levels

/-!
# Names of steps do not matter

A renaming of steps keeps different names different and blank names blank (`IsRenaming`).  It is applied to all
identifiers of a flow and to all references to them.

* A change of steps that only renames them (`Renames`) lets a name lead to the same step as before
  (`Renames.declared?_map`), so the step graph is the same (`Renames.cycles_map`, `Renames.reachableSteps_map`).
* The rules on the graph ask for nothing but blankness, equality and what a name leads to, so they report the
  same under the same codes at the same places; only messages show names (`graph_rules_ignore_names`).
-/

namespace FlowCheck

variable {r : String → String}

/-! ### Renamed flows -/

/-- Different names stay different, and a name is blank if and only if its new name is. -/
structure IsRenaming (r : String → String) : Prop where
  injective : Function.Injective r
  blank : ∀ id, Text.blank (r id) = Text.blank id

def BranchCondition.rename (r : String → String) (condition : BranchCondition) : BranchCondition :=
  { condition with target := r condition.target }

def StepKind.rename (r : String → String) : StepKind → StepKind
  | .branch s => .branch { conditions := s.conditions.map (.rename r), fallback := s.fallback.map r }
  | kind => kind

def Step.rename (r : String → String) (step : Step) : Step :=
  { step with
    id := r step.id
    action := step.action.rename r
    next := step.next.map r
    error := step.error.map r }

/-- The flow with new names for its steps. -/
def Flow.rename (r : String → String) (flow : Flow) : Flow :=
  { flow with steps := flow.steps.map (.rename r) }

theorem IsRenaming.beq_eq (h : IsRenaming r) (a b : String) : (r a == r b) = (a == b) := by
  rw [Bool.eq_iff_iff, beq_iff_eq, beq_iff_eq, h.injective.eq_iff]

theorem branchRoutes_rename (path : Path) (kind : StepKind) :
    Rules.branchRoutes path (kind.rename r) =
      (Rules.branchRoutes path kind).map fun route => (route.1, r route.2) := by
  cases kind with
  | branch s =>
    simp only [StepKind.rename, Rules.branchRoutes, List.map_append, map_mapIdx, mapIdx_map, Option.toList_map,
      List.map_map]
    rfl
  | _ => rfl

theorem IsRenaming.branchTargets_rename (h : IsRenaming r) (kind : StepKind) :
    (kind.rename r).branchTargets = kind.branchTargets.map r := by
  cases kind with
  | branch s =>
    have hblank : (fun target => !Text.blank target) ∘ r = fun target => !Text.blank target :=
      funext fun target => congrArg (!·) (h.blank target)
    have htargets : (s.conditions.map (BranchCondition.rename r)).map (·.target) =
        (s.conditions.map (·.target)).map r := by
      rw [List.map_map, List.map_map]
      rfl
    simp only [StepKind.rename, StepKind.branchTargets]
    rw [htargets, Option.toList_map, ← List.map_append, List.filter_map, hblank]
  | _ => rfl

/-! ### The step graph -/

/-- A change of steps gives them new names, in their identifiers and in their routes; all else is left open. -/
structure Renames (r : String → String) (change : Step → Step) : Prop extends IsRenaming r where
  id : ∀ step, (change step).id = r step.id
  next : ∀ step, (change step).next = step.next.map r
  error : ∀ step, (change step).error = step.error.map r
  branchTargets : ∀ step, (change step).action.branchTargets = step.action.branchTargets.map r

theorem IsRenaming.renames (h : IsRenaming r) : Renames r (Step.rename r) where
  toIsRenaming := h
  id _ := rfl
  next _ := rfl
  error _ := rfl
  branchTargets step := h.branchTargets_rename step.action

namespace Renames

variable {change : Step → Step} (h : Renames r change) (steps : List Step)

include h

/-- A new name leads where the old one led. -/
theorem declared?_map (id : String) : Graph.declared? (steps.map change) (r id) = Graph.declared? steps id := by
  have hsame : (fun step : Step => step.id == r id) ∘ change = fun step => step.id == id :=
    funext fun step => by rw [Function.comp_apply, h.id, h.beq_eq]
  rw [Graph.declared?, Graph.declared?, h.blank, List.findIdx?_map, hsame]

theorem filterMap_declared? (ids : List String) :
    (ids.map r).filterMap (Graph.declared? (steps.map change)) = ids.filterMap (Graph.declared? steps) := by
  rw [List.filterMap_map]
  exact List.filterMap_congr fun id _ => h.declared?_map steps id

theorem isShadowed_map (i : Nat) (step : Step) :
    Graph.isShadowed (steps.map change) i (change step) = Graph.isShadowed steps i step := by
  rw [Graph.isShadowed, Graph.isShadowed, h.id, h.declared?_map]

theorem successors_eq (step : Step) : (change step).successors = step.successors.map r := by
  rw [Step.successors, Step.successors, h.next, h.branchTargets, List.map_append]

theorem successEdges_map (i : Nat) (step : Step) :
    Graph.successEdges (steps.map change) i (change step) = Graph.successEdges steps i step := by
  rw [Graph.successEdges, Graph.successEdges, h.isShadowed_map, h.successors_eq, h.filterMap_declared?]

theorem routes_map (i : Nat) (step : Step) :
    Graph.routes (steps.map change) i (change step) = Graph.routes steps i step := by
  rw [Graph.routes, Graph.routes, h.successors_eq, h.error, h.next, Option.toList_map, ← List.map_append,
    h.filterMap_declared?, List.isEmpty_map]

omit h in
private theorem edgeTable_map {edges : List Step → Nat → Step → List Nat}
    (hedges : ∀ i step, edges (steps.map change) i (change step) = edges steps i step) :
    Graph.edgeTable (steps.map change) edges = Graph.edgeTable steps edges := by
  rw [Graph.edgeTable, Graph.edgeTable, mapIdx_map]
  simp only [hedges]

theorem cycles_map : Graph.cycles (steps.map change) = Graph.cycles steps := by
  rw [Graph.cycles, Graph.cycles, edgeTable_map steps (h.successEdges_map steps), List.length_map]

theorem reachableSteps_map : Graph.reachableSteps (steps.map change) = Graph.reachableSteps steps := by
  rw [Graph.reachableSteps, Graph.reachableSteps, edgeTable_map steps (h.routes_map steps), List.length_map]

end Renames

/-! ### The rules on the graph -/

/-- What a finding says apart from its message. -/
def Finding.mark (finding : Finding) : Option String × String × Severity :=
  (finding.path, finding.code, finding.severity)

theorem map_mark_when (reason : Bool) (path : Option String) (message code : String) (severity : Severity) :
    (Finding.when reason ⟨path, message, code, severity⟩).map Finding.mark =
      if reason then [(path, code, severity)] else [] := by
  cases reason <;> rfl

namespace Rules

section Steps

variable (h : IsRenaming r) (steps : List Step) (i : Nat) (step : Step)

include h

theorem marks_stepId :
    (stepId (steps.map (.rename r)) i (step.rename r)).map Finding.mark = (stepId steps i step).map Finding.mark := by
  have hblank : Text.blank (step.rename r).id = Text.blank step.id := h.blank step.id
  have hdeclared : Graph.declared? (steps.map (.rename r)) (step.rename r).id = Graph.declared? steps step.id :=
    h.renames.declared?_map steps step.id
  rw [stepId, stepId, hblank, hdeclared]
  split
  · rfl
  · split
    · simp only [Finding.error, map_mark_when]
    · rfl

theorem marks_references :
    (references (steps.map (.rename r)) i (step.rename r)).map Finding.mark =
      (references steps i step).map Finding.mark := by
  have hunknown : ∀ id, (Graph.declared? (steps.map (.rename r)) (r id)).isNone = (Graph.declared? steps id).isNone :=
    fun id => congrArg Option.isNone (h.renames.declared?_map steps id)
  simp only [references, Step.rename, branchRoutes_rename, mapIdx_map, Option.toList_map, List.map_append,
    map_flatten_map, map_flatten_mapIdx, List.map_map, Function.comp_def, hunknown, h.blank, Finding.error,
    map_mark_when]

theorem marks_selfReferences (severity : Severity) :
    (selfReferences severity i (step.rename r)).map Finding.mark =
      (selfReferences severity i step).map Finding.mark := by
  simp only [selfReferences, Step.rename, h.blank]
  split
  · rfl
  · simp only [branchRoutes_rename, mapIdx_map, Option.toList_map, List.map_append, map_flatten_map,
      map_flatten_mapIdx, List.map_map, Function.comp_def, h.beq_eq, map_mark_when]

end Steps

variable (h : IsRenaming r) (flow : Flow) (settings : RuleSettings)

include h

theorem marks_selfReference :
    (selfReference (flow.rename r) settings).map Finding.mark = (selfReference flow settings).map Finding.mark := by
  unfold selfReference
  split
  · rfl
  · simp only [Flow.rename, mapIdx_map, map_flatten_mapIdx, marks_selfReferences h]

theorem marks_cycles :
    (cycles (flow.rename r) settings).map Finding.mark = (cycles flow settings).map Finding.mark := by
  have hcycles : Graph.cycles (flow.rename r).steps = Graph.cycles flow.steps := h.renames.cycles_map flow.steps
  unfold cycles
  split
  · rfl
  · rw [hcycles, List.map_map, List.map_map]
    rfl

theorem marks_unreachable (first : Step) (severity : Severity) :
    (unreachable (flow.rename r) (first.rename r) severity).map Finding.mark =
      (unreachable flow first severity).map Finding.mark := by
  simp only [unreachable, Flow.rename, h.renames.reachableSteps_map, mapIdx_map, map_flatten_mapIdx,
    h.renames.isShadowed_map, map_mark_when]

theorem marks_unreachableSteps :
    (unreachableSteps (flow.rename r) settings).map Finding.mark =
      (unreachableSteps flow settings).map Finding.mark := by
  have hsteps : (flow.rename r).steps = flow.steps.map (.rename r) := rfl
  unfold unreachableSteps
  rw [hsteps]
  cases settings.unreachableSteps.severity? with
  | none => rfl
  | some severity =>
    cases flow.steps with
    | nil => rfl
    | cons first rest => exact marks_unreachable h flow first severity

end Rules

/-- A renaming of the steps changes neither the cycles of a flow nor, messages apart, what the rules on its graph
report. -/
theorem graph_rules_ignore_names (h : IsRenaming r) (flow : Flow) (settings : RuleSettings) :
    Graph.cycles (flow.rename r).steps = Graph.cycles flow.steps ∧
      ∀ rule ∈ [Rule.duplicateStepIds, .stepReferences, .selfReference, .cycles, .unreachableSteps],
        (rule.check (flow.rename r) settings).map Finding.mark = (rule.check flow settings).map Finding.mark := by
  refine ⟨h.renames.cycles_map flow.steps, fun rule hrule => ?_⟩
  simp only [List.mem_cons, List.not_mem_nil, or_false] at hrule
  rcases hrule with rfl | rfl | rfl | rfl | rfl
  · simp only [Rule.check, Rules.duplicateStepIds, Flow.rename, mapIdx_map, map_flatten_mapIdx, Rules.marks_stepId h]
  · simp only [Rule.check, Rules.stepReferences, Flow.rename, mapIdx_map, map_flatten_mapIdx, Rules.marks_references h]
  · exact Rules.marks_selfReference h flow settings
  · exact Rules.marks_cycles h flow settings
  · exact Rules.marks_unreachableSteps h flow settings

/-- Exchanges two names. -/
def exchanged (id : String) : String :=
  if id = "a" then "b" else if id = "b" then "a" else id

theorem isRenaming_exchanged : IsRenaming exchanged := by
  refine ⟨fun a b hab => ?_, fun id => ?_⟩
  · unfold exchanged at hab
    grind
  · unfold exchanged
    split
    · rename_i ha
      subst ha
      rfl
    · split
      · rename_i hb
        subst hb
        rfl
      · rfl

theorem graph_rules_ignore_names_of_knot :
    IsRenaming exchanged ∧ (knot.rename exchanged).steps.map (·.id) = ["b", "a"] ∧
      Graph.cycles (knot.rename exchanged).steps = [[0, 1]] ∧
      (Rule.selfReference.check (knot.rename exchanged) .strictest).map Finding.mark =
        [(some "steps[1].next[1]", "STEP_SELF_REFERENCE", .error)] := by
  obtain ⟨hcycles, hrules⟩ := graph_rules_ignore_names isRenaming_exchanged knot .strictest
  refine ⟨isRenaming_exchanged, rfl, ?_, ?_⟩
  · rw [hcycles, Graph.cycles_knot]
  · rw [hrules .selfReference (by decide)]
    decide +kernel

end FlowCheck
