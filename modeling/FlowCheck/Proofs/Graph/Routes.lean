import FlowCheck.Proofs.Graph.Components
import FlowCheck.Proofs.Graph.Renaming
import FlowCheck.Proofs.Graph.Search
import Mathlib.Order.Bounds.Defs

/-!
# Which steps a run can reach

A run starts at the first step.  From a step it goes to the first declarations of the names in `next`, of the
targets of a branch and of the handler of failures, and to the following step if `next` is empty
(`edge_routes_iff`).  What a search along these routes finds is the least set of steps that holds the first one
and is closed under them (`reachableSteps_isLeast`).  The steps that are reported as unreachable are all others,
later duplicates apart (`marks_unreachableSteps_eq`).
-/

namespace FlowCheck

/-- The step names the identifier as one to go to, on its success path or when it fails. -/
def Step.Names (step : Step) (id : String) : Prop :=
  step.RoutesTo id ∨ step.error = some id

namespace Graph

variable {steps : List Step} {i j : Nat}

/-! ### Routes -/

/-- The set holds the first step and, with a step, all steps that a run can go to from it. -/
structure ClosedUnderRoutes (steps : List Step) (reached : Set Nat) : Prop where
  first : 0 ∈ reached
  named : ∀ i ∈ reached, ∀ step, steps[i]? = some step → ∀ id, step.Names id → ∀ j, FirstDeclares steps id j →
    j ∈ reached
  following : ∀ i ∈ reached, ∀ step, steps[i]? = some step → step.next = [] → i + 1 < steps.length → i + 1 ∈ reached

/-- A route leads to the first declaration of a name, or from a step without `next` to the following one. -/
theorem edge_routes_iff :
    Edge steps.length (edgeTable steps routes) i j ↔
      ∃ step, steps[i]? = some step ∧
        ((∃ id, step.Names id ∧ FirstDeclares steps id j) ∨ step.next = [] ∧ j = i + 1 ∧ j < steps.length) := by
  have hnamed : ∀ step : Step, j ∈ (step.successors ++ step.error.toList).filterMap (declared? steps) ↔
      ∃ id, step.Names id ∧ FirstDeclares steps id j := by
    intro step
    rw [mem_filterMap_declared?]
    refine exists_congr fun id => and_congr_left fun hdeclares => ?_
    rw [List.mem_append, mem_successors hdeclares.not_blank, Option.mem_toList, Step.Names]
  have hfollowing : ∀ step : Step, j ∈ (if step.next.isEmpty then [i + 1] else []) ↔ step.next = [] ∧ j = i + 1 := by
    intro step
    cases step.next <;> simp
  rw [Edge, mem_edgeTable]
  constructor
  · rintro ⟨⟨step, hstep, hmem⟩, hlt⟩
    refine ⟨step, hstep, ?_⟩
    rcases List.mem_append.1 hmem with hmem | hmem
    · exact Or.inl ((hnamed step).1 hmem)
    · obtain ⟨hnext, heq⟩ := (hfollowing step).1 hmem
      exact Or.inr ⟨hnext, heq, hlt⟩
  · rintro ⟨step, hstep, hroute | ⟨hnext, heq, hlt⟩⟩
    · have hlt : j < steps.length := by
        obtain ⟨id, -, hdeclares⟩ := hroute
        exact hdeclares.lt_length
      exact ⟨⟨step, hstep, List.mem_append_left _ ((hnamed step).2 hroute)⟩, hlt⟩
    · exact ⟨⟨step, hstep, List.mem_append_right _ ((hfollowing step).2 ⟨hnext, heq⟩)⟩, hlt⟩

/-! ### What is reached -/

theorem contains_reachableSteps_iff (hsteps : steps ≠ []) :
    (reachableSteps steps).contains i = true ↔ Reaches steps.length (edgeTable steps routes) 0 i :=
  contains_reachable (List.length_pos_iff.2 hsteps)

/-- The steps that a run can reach are the least set that is closed under its routes. -/
theorem reachableSteps_isLeast (hsteps : steps ≠ []) :
    IsLeast {reached | ClosedUnderRoutes steps reached} {i | (reachableSteps steps).contains i = true} := by
  have hreached : {i | (reachableSteps steps).contains i = true} =
      {i | Reaches steps.length (edgeTable steps routes) 0 i} := by
    ext i
    exact contains_reachableSteps_iff hsteps
  rw [hreached]
  constructor
  · refine ⟨.refl, fun i hi step hstep id hid j hdeclares => ?_, fun i hi step hstep hnext hlt => ?_⟩
    · exact hi.tail (edge_routes_iff.2 ⟨step, hstep, Or.inl ⟨id, hid, hdeclares⟩⟩)
    · exact hi.tail (edge_routes_iff.2 ⟨step, hstep, Or.inr ⟨hnext, rfl, hlt⟩⟩)
  · intro reached hclosed i hi
    induction hi with
    | refl => exact hclosed.first
    | @tail i j _ hedge ih =>
      obtain ⟨step, hstep, ⟨id, hid, hdeclares⟩ | ⟨hnext, rfl, hlt⟩⟩ := edge_routes_iff.1 hedge
      · exact hclosed.named i ih step hstep id hid j hdeclares
      · exact hclosed.following i ih step hstep hnext hlt

/-- The first step is reached. -/
theorem contains_first (hsteps : steps ≠ []) : (reachableSteps steps).contains 0 = true :=
  (contains_reachableSteps_iff hsteps).2 .refl

end Graph

/-! ### What is reported -/

/-- Conditional entries of a list, by the indices at which the condition holds. -/
theorem flatten_mapIdx_ite {α β : Type} (as : List α) (p : Nat → α → Bool) (g : Nat → β) :
    (as.mapIdx fun i a => if p i a then [g i] else []).flatten =
      ((List.range as.length).filter fun i => (as[i]?).any (p i)).map g := by
  induction as using List.reverseRecOn with
  | nil => rfl
  | append_singleton as a ih =>
    have hearlier : ∀ i ∈ List.range as.length, ((as ++ [a])[i]?).any (p i) = (as[i]?).any (p i) := by
      intro i hi
      rw [List.getElem?_append_left (List.mem_range.1 hi)]
    rw [List.mapIdx_concat, List.flatten_append, ih, List.length_append, List.length_singleton, List.range_succ,
      List.filter_append, List.map_append, List.filter_congr hearlier]
    cases hp : p as.length a <;> simp [hp]

namespace Rules

/-- The indices of the steps that are reported as unreachable. -/
def unreachableIndices (steps : List Step) : List Nat :=
  (List.range steps.length).filter fun i =>
    (steps[i]?).any fun step => !(Graph.reachableSteps steps).contains i && !Graph.isShadowed steps i step

theorem mem_unreachableIndices {steps : List Step} {i : Nat} :
    i ∈ unreachableIndices steps ↔
      i < steps.length ∧ (Graph.reachableSteps steps).contains i = false ∧ ¬Graph.IsLaterDuplicate steps i := by
  rw [unreachableIndices, List.mem_filter, List.mem_range]
  refine and_congr_right fun hi => ?_
  have hstep := List.getElem?_eq_getElem hi
  rw [hstep, Option.any_some, Bool.and_eq_true, Bool.not_eq_true', Bool.not_eq_true', ← Graph.isShadowed_iff hstep,
    Bool.not_eq_true]

theorem unreachableIndices_increasing (steps : List Step) : (unreachableIndices steps).Pairwise (· < ·) :=
  List.pairwise_lt_range.filter _

/-- Messages apart, the rule on unreachable steps says that these steps are unreachable, in order. -/
theorem marks_unreachableSteps_eq {flow : Flow} {settings : RuleSettings} {severity : Severity}
    (hlevel : settings.unreachableSteps.severity? = some severity) (hsteps : flow.steps ≠ []) :
    (unreachableSteps flow settings).map Finding.mark = (unreachableIndices flow.steps).map fun i =>
      (some (stepPath i).text, Code.unreachableStep.name, severity) := by
  obtain ⟨first, rest, hfirst⟩ := List.exists_cons_of_ne_nil hsteps
  have hrule : unreachableSteps flow settings = unreachable flow first severity := by
    rw [unreachableSteps, hlevel, hfirst]
  rw [hrule, unreachable, map_flatten_mapIdx]
  simp only [map_mark_when]
  exact flatten_mapIdx_ite _ _ _

end Rules

/-- The search for the steps that a run can reach finds the least set of steps that is closed under routes, and
it ends in whatever order it goes.  All other steps are reported, each once and in order, unless they are later
duplicates; so the first step is never reported. -/
theorem reachability_is_exact {flow : Flow} (hsteps : flow.steps ≠ []) {settings : RuleSettings}
    (hlevel : settings.unreachableSteps ≠ .allow) :
    IsLeast {reached | Graph.ClosedUnderRoutes flow.steps reached}
        {i | (Graph.reachableSteps flow.steps).contains i = true} ∧
      Graph.Search.Ends flow.steps.length (Graph.edgeTable flow.steps Graph.routes) 0
        (Graph.reachableSteps flow.steps) ∧
      ∃ (severity : Severity) (indices : List Nat), settings.unreachableSteps.severity? = some severity ∧
        indices.Pairwise (· < ·) ∧
        (∀ i, i ∈ indices ↔ i < flow.steps.length ∧ (Graph.reachableSteps flow.steps).contains i = false ∧
          ¬Graph.IsLaterDuplicate flow.steps i) ∧
        0 ∉ indices ∧
        (Rules.unreachableSteps flow settings).map Finding.mark =
          indices.map fun i => (some s!"steps[{i}]", "UNREACHABLE_STEP", severity) := by
  obtain ⟨severity, hseverity⟩ : ∃ severity, settings.unreachableSteps.severity? = some severity := by
    cases h : settings.unreachableSteps with
    | allow => exact absurd h hlevel
    | warn => exact ⟨_, rfl⟩
    | error => exact ⟨_, rfl⟩
  refine ⟨Graph.reachableSteps_isLeast hsteps, Graph.Search.ends_reachable (List.length_pos_iff.2 hsteps), severity,
    Rules.unreachableIndices flow.steps, hseverity, Rules.unreachableIndices_increasing _,
    fun i => Rules.mem_unreachableIndices, fun h => ?_, ?_⟩
  · have hunreached := (Rules.mem_unreachableIndices.1 h).2.1
    rw [Graph.contains_first hsteps] at hunreached
    cases hunreached
  · rw [Rules.marks_unreachableSteps_eq hseverity hsteps]
    refine List.map_congr_left fun i _ => ?_
    rw [Rules.stepPath, Path.text_index]
    rfl

/-- A branch without `next`, a step that leads to itself, a step with a handler, a later duplicate and two more. -/
def detours : Flow where
  metadata := ⟨"f", "1.0.0", none, none, [], [], none, none⟩
  triggers := []
  steps := [⟨"a", "A", none, .branch ⟨[], some "c"⟩, none, [], [], none⟩,
    ⟨"b", "B", none, .map ⟨"x", none⟩, none, [], ["b", "ghost"], none⟩,
    ⟨"c", "C", none, .map ⟨"x", none⟩, none, [], ["a", " "], some "e"⟩,
    ⟨"a", "A", none, .map ⟨"x", none⟩, none, [], ["d"], none⟩,
    ⟨"d", "D", none, .map ⟨"x", none⟩, none, [], [], none⟩,
    ⟨"e", "E", none, .map ⟨"x", none⟩, none, [], [], none⟩]
  observability := none

theorem reachability_is_exact_of_detours :
    detours.steps ≠ [] ∧ RuleLevel.warn ≠ .allow ∧
      IsLeast {reached | Graph.ClosedUnderRoutes detours.steps reached}
        {i | (Graph.reachableSteps detours.steps).contains i = true} ∧
      (List.range 6).filter (Graph.reachableSteps detours.steps).contains = [0, 1, 2, 5] ∧
      (Rules.unreachableSteps detours {}).map Finding.mark = [(some "steps[4]", "UNREACHABLE_STEP", .warning)] := by
  have hsteps : detours.steps ≠ [] := List.cons_ne_nil _ _
  have hlevel : ({} : RuleSettings).unreachableSteps ≠ .allow := by decide
  obtain ⟨hleast, -⟩ := reachability_is_exact hsteps hlevel
  have hrows : detours.steps.mapIdx (Graph.routes detours.steps) = [[2, 1], [1], [0, 5], [4], [5], [6]] := by
    decide +kernel
  have hreached : Graph.reachableSteps detours.steps = ⟨0b100111⟩ := by
    rw [Graph.reachableSteps, Graph.edgeTable, hrows]
    cbv
  refine ⟨hsteps, hlevel, hleast, ?_, ?_⟩
  · rw [hreached]
    decide +kernel
  · rw [Rules.unreachableSteps]
    simp only [Rules.unreachable, hreached]
    decide +kernel

end FlowCheck
