import FlowCheck.Proofs.ClosedGraph
import FlowCheck.Proofs.Graph.Reachability

/-!
# Loops on the success path

Loops of one step are left to the rule on self-references and longer ones to the rule on cycles; the two rules
list the routes of a step on their own.  Together they leave no gap: a flow whose identifiers tell its steps
apart has a walk from a step back to itself exactly if one of the two rules reports a route of the success path
(`silent_iff_no_closed_walk`).

A closed walk starts with an edge to a step that reaches back.  If that step is the first one, the edge is a
self-reference; otherwise the two steps reach each other, so they share a component (`no_closed_walk_iff`).
-/

namespace FlowCheck

/-! ### Routes of the success path -/

/-- The step routes to the identifier when it succeeds: by `next`, by a condition or by the fallback of a branch. -/
def Step.RoutesTo (step : Step) (id : String) : Prop :=
  id ∈ step.next ∨ id ∈ step.action.conditionTargets ∨ id ∈ step.action.fallback?

/-- The first step routes to the identifier of the second. -/
def Flow.Leads (flow : Flow) (i j : Nat) : Prop :=
  ∃ source target, flow.steps[i]? = some source ∧ flow.steps[j]? = some target ∧ source.RoutesTo target.id

/-- The places of routes of the success path. -/
inductive Rules.SuccessPlace : Path → Prop
  | next (i j : Nat) : SuccessPlace (((stepPath i).field "next").index j)
  | condition (i k : Nat) :
      SuccessPlace (((((stepPath i).field "step").field "conditions").index k).field "target")
  | fallback (i : Nat) : SuccessPlace (((stepPath i).field "step").field "default")

/-- No route of the success path is reported as a self-reference. -/
def Rules.NoSelfRoute (flow : Flow) (settings : RuleSettings) : Prop :=
  ∀ finding ∈ Rules.selfReference flow settings, ∀ path, SuccessPlace path → finding.path ≠ some path.text

theorem mem_branchTargets {action : StepKind} {id : String} (hid : Text.blank id = false) :
    id ∈ action.branchTargets ↔ id ∈ action.conditionTargets ∨ id ∈ action.fallback? := by
  cases action with
  | branch settings =>
    simp [StepKind.branchTargets, StepKind.conditionTargets, StepKind.fallback?, hid]
  | _ => simp [StepKind.branchTargets, StepKind.conditionTargets, StepKind.fallback?]

theorem mem_successors {step : Step} {id : String} (hid : Text.blank id = false) :
    id ∈ step.successors ↔ step.RoutesTo id := by
  rw [Step.successors, List.mem_append, mem_branchTargets hid, Step.RoutesTo]

/-! ### Edges of the step graph -/

section Edges

variable {steps : List Step} {flow : Flow} {settings : RuleSettings}

/-- Among different identifiers, the first step with an identifier is the only one. -/
theorem declared?_eq_some (hnodup : (steps.map (·.id)).Nodup) {id : String} {j : Nat} :
    Graph.declared? steps id = some j ↔ Text.blank id = false ∧ ∃ step, steps[j]? = some step ∧ step.id = id := by
  cases hblank : Text.blank id with
  | true => simp [Graph.declared?, hblank]
  | false =>
    simp only [Graph.declared?, hblank, Bool.false_eq_true, if_false, true_and, List.findIdx?_eq_some_iff_getElem,
      beq_iff_eq]
    constructor
    · rintro ⟨hj, hid, -⟩
      exact ⟨steps[j], List.getElem?_eq_getElem hj, hid⟩
    · rintro ⟨step, hstep, hid⟩
      obtain ⟨hj, rfl⟩ := List.getElem?_eq_some_iff.1 hstep
      refine ⟨hj, hid, fun k hk heq => ?_⟩
      have hpair := List.pairwise_iff_getElem.1 hnodup k j (by simpa using Nat.lt_trans hk hj) (by simpa using hj) hk
      simp only [List.getElem_map] at hpair
      exact hpair (heq.trans hid.symm)

/-- When identifiers tell steps apart, no step is shadowed. -/
theorem isShadowed_eq_false (hblank : ∀ step ∈ steps, Text.blank step.id = false)
    (hnodup : (steps.map (·.id)).Nodup) {i : Nat} {step : Step} (h : steps[i]? = some step) :
    Graph.isShadowed steps i step = false := by
  have hdeclared : Graph.declared? steps step.id = some i :=
    (declared?_eq_some hnodup).2 ⟨hblank step (List.mem_of_getElem? h), step, h, rfl⟩
  simp [Graph.isShadowed, hdeclared]

theorem mem_edgeTable {edges : List Step → Nat → Step → List Nat} {i j : Nat} :
    j ∈ Graph.edgeTable steps edges i ↔ ∃ step, steps[i]? = some step ∧ j ∈ edges steps i step := by
  simp only [Graph.edgeTable, Array.getD_eq_getD_getElem?, List.getElem?_toArray, List.getElem?_mapIdx]
  cases steps[i]? with
  | none => simp
  | some step => simp

/-- The edges that the search for cycles follows are the routes of the success path. -/
theorem edge_eq_leads (hblank : ∀ step ∈ flow.steps, Text.blank step.id = false)
    (hnodup : (flow.steps.map (·.id)).Nodup) :
    Graph.Edge flow.steps.length (Graph.edgeTable flow.steps Graph.successEdges) = flow.Leads := by
  funext i j
  refine propext ?_
  rw [Graph.Edge, mem_edgeTable, Flow.Leads]
  constructor
  · rintro ⟨⟨source, hsource, hmem⟩, -⟩
    rw [Graph.successEdges, isShadowed_eq_false hblank hnodup hsource, if_neg Bool.false_ne_true,
      List.mem_filterMap] at hmem
    obtain ⟨id, hid, hdeclared⟩ := hmem
    obtain ⟨hne, target, htarget, rfl⟩ := (declared?_eq_some hnodup).1 hdeclared
    exact ⟨source, target, hsource, htarget, (mem_successors hne).1 hid⟩
  · rintro ⟨source, target, hsource, htarget, hroute⟩
    have hne := hblank target (List.mem_of_getElem? htarget)
    refine ⟨⟨source, hsource, ?_⟩, (List.getElem?_eq_some_iff.1 htarget).1⟩
    rw [Graph.successEdges, isShadowed_eq_false hblank hnodup hsource, if_neg Bool.false_ne_true, List.mem_filterMap]
    exact ⟨target.id, (mem_successors hne).2 hroute, (declared?_eq_some hnodup).2 ⟨hne, target, htarget, rfl⟩⟩

/-- The rule on cycles is silent exactly if different steps never reach each other. -/
theorem cycles_eq_nil_iff (hblank : ∀ step ∈ flow.steps, Text.blank step.id = false)
    (hnodup : (flow.steps.map (·.id)).Nodup) (hlevel : settings.cycles ≠ .allow) :
    Rules.cycles flow settings = [] ↔
      ∀ i < flow.steps.length, ∀ j < flow.steps.length,
        Relation.ReflTransGen flow.Leads i j → Relation.ReflTransGen flow.Leads j i → i = j := by
  have hcycles : Rules.cycles flow settings = [] ↔ Graph.cycles flow.steps = [] := by
    unfold Rules.cycles
    cases hseverity : settings.cycles with
    | allow => exact absurd hseverity hlevel
    | warn => simp [RuleLevel.severity?]
    | error => simp [RuleLevel.severity?]
  rw [hcycles, Graph.cycles, Graph.components_eq_nil_iff]
  simp only [Graph.Reaches, edge_eq_leads hblank hnodup]

end Edges

/-! ### Self-references -/

section SelfReferences

variable {flow : Flow} {settings : RuleSettings}

theorem Path.getLast?_text_field {path : Path} (name : String) {c : Char} (h : name.toList.getLast? = some c) :
    (path.field name).text.toList.getLast? = some c := by
  rw [Path.text_field, String.toList_append, List.getLast?_append, h]
  rfl

theorem Path.getLast?_text_index {path : Path} {j : Nat} : (path.index j).text.toList.getLast? = some ']' := by
  rw [Path.text_index, String.toList_append, String.toList_append, List.getLast?_append, List.getLast?_append]
  rfl

/-- The place of the handler of failures is none of the success path. -/
theorem Rules.errorPlace_ne {path : Path} (h : Rules.SuccessPlace path) (i : Nat) :
    ((Rules.stepPath i).field "error").text ≠ path.text := by
  -- the texts end in different characters
  intro heq
  have hlast : ((Rules.stepPath i).field "error").text.toList.getLast? = some 'r' :=
    Path.getLast?_text_field "error" rfl
  rw [heq] at hlast
  cases h with
  | next =>
    rw [Path.getLast?_text_index] at hlast
    exact absurd hlast (by decide)
  | condition =>
    rw [Path.getLast?_text_field "target" rfl] at hlast
    exact absurd hlast (by decide)
  | fallback =>
    rw [Path.getLast?_text_field "default" rfl] at hlast
    exact absurd hlast (by decide)

/-- The routes of a branch are its conditions and its fallback, each at a place of the success path. -/
theorem of_mem_branchRoutes {i : Nat} {action : StepKind} {place : Path} {target : String}
    (h : (place, target) ∈ Rules.branchRoutes (Rules.stepPath i) action) :
    Rules.SuccessPlace place ∧ (target ∈ action.conditionTargets ∨ target ∈ action.fallback?) := by
  cases action with
  | branch settings =>
    rcases List.mem_append.1 h with h | h
    · obtain ⟨k, hk, heq⟩ := List.mem_mapIdx.1 h
      cases heq
      exact ⟨.condition i k, .inl (List.mem_map_of_mem (List.getElem_mem hk))⟩
    · obtain ⟨fallback, hfallback, heq⟩ := List.mem_map.1 h
      cases heq
      exact ⟨.fallback i, .inr (Option.mem_toList.1 hfallback)⟩
  | _ => cases h

/-- A self-reference that is reported at a place of the success path is a route to the step itself. -/
theorem routesTo_of_mem_selfReferences {severity : Severity} {i : Nat} {step : Step} :
    ∀ finding ∈ Rules.selfReferences severity i step, ∀ path, Rules.SuccessPlace path →
      finding.path = some path.text → step.RoutesTo step.id := by
  unfold Rules.selfReferences
  cases hid : Text.blank step.id with
  | true => simp
  | false =>
    simp only [Bool.false_eq_true, if_false, List.forall_mem_append, forall_mem_flatten_mapIdx, forall_mem_flatten_map,
      forall_mem_when, beq_iff_eq]
    refine ⟨⟨fun j hj heq _ _ _ => ?_, fun target _ _ path hplace hpath => ?_⟩, fun route hroute heq _ _ _ => ?_⟩
    · exact .inl (heq ▸ List.getElem_mem hj)
    · exact absurd (Option.some.inj hpath) (Rules.errorPlace_ne hplace i)
    · exact .inr (heq ▸ (of_mem_branchRoutes hroute).2)

/-- A route of the success path to the step itself is reported there. -/
theorem exists_mem_selfReferences (severity : Severity) (i : Nat) {step : Step} (hid : Text.blank step.id = false)
    (h : step.RoutesTo step.id) :
    ∃ finding ∈ Rules.selfReferences severity i step, ∃ path, Rules.SuccessPlace path ∧
      finding.path = some path.text := by
  by_contra hnone
  simp only [not_exists, not_and] at hnone
  simp only [Rules.selfReferences, hid, Bool.false_eq_true, if_false, List.forall_mem_append,
    forall_mem_flatten_mapIdx, forall_mem_flatten_map, forall_mem_when, beq_iff_eq] at hnone
  obtain ⟨⟨hnext, -⟩, hbranch⟩ := hnone
  have htargets : ¬(step.id ∈ step.action.conditionTargets ∨ step.id ∈ step.action.fallback?) := by
    intro htarget
    obtain ⟨place, hroute⟩ : ∃ place, (place, step.id) ∈ Rules.branchRoutes (Rules.stepPath i) step.action :=
      htarget.elim mem_branchRoutes_of_condition mem_branchRoutes_of_fallback
    exact hbranch _ hroute rfl place (of_mem_branchRoutes hroute).1 rfl
  rcases h with hmem | hmem
  · obtain ⟨j, hj, heq⟩ := List.mem_iff_getElem.1 hmem
    exact hnext j hj heq _ (.next i j) rfl
  · exact htargets hmem

/-- The rule on self-references leaves the success path alone exactly if no step leads to itself. -/
theorem noSelfRoute_iff (hblank : ∀ step ∈ flow.steps, Text.blank step.id = false)
    (hlevel : settings.selfReference ≠ .allow) :
    Rules.NoSelfRoute flow settings ↔ ∀ i, ¬flow.Leads i i := by
  obtain ⟨severity, hseverity⟩ : ∃ severity, settings.selfReference.severity? = some severity := by
    cases h : settings.selfReference with
    | allow => exact absurd h hlevel
    | warn => exact ⟨_, rfl⟩
    | error => exact ⟨_, rfl⟩
  rw [Rules.NoSelfRoute, Rules.selfReference, hseverity]
  constructor
  · rintro h i ⟨step, target, hstep, htarget, hroute⟩
    obtain rfl : step = target := Option.some.inj (hstep.symm.trans htarget)
    obtain ⟨hi, rfl⟩ := List.getElem?_eq_some_iff.1 hstep
    obtain ⟨finding, hmem, path, hplace, hpath⟩ :=
      exists_mem_selfReferences severity i (hblank _ (List.getElem_mem hi)) hroute
    exact forall_mem_flatten_mapIdx.1 h i hi finding hmem path hplace hpath
  · intro h
    refine forall_mem_flatten_mapIdx.2 fun i hi finding hmem path hplace hpath => h i ?_
    exact ⟨_, _, List.getElem?_eq_getElem hi, List.getElem?_eq_getElem hi,
      routesTo_of_mem_selfReferences finding hmem path hplace hpath⟩

end SelfReferences

/-! ### Closed walks -/

/-- A relation has no closed walk exactly if nothing is related to itself and different elements never reach each
other. -/
theorem no_closed_walk_iff {size : Nat} {r : Nat → Nat → Prop} (hr : ∀ i j, r i j → i < size ∧ j < size) :
    (∀ i, ¬Relation.TransGen r i i) ↔
      (∀ i, ¬r i i) ∧ ∀ i < size, ∀ j < size, Relation.ReflTransGen r i j → Relation.ReflTransGen r j i → i = j := by
  constructor
  · intro h
    refine ⟨fun i hi => h i (.single hi), fun i _ j _ hij hji => ?_⟩
    rcases Relation.reflTransGen_iff_eq_or_transGen.1 hij with heq | hwalk
    · exact heq.symm
    · exact absurd (hwalk.trans_left hji) (h i)
  · rintro ⟨hself, hback⟩ i hwalk
    obtain ⟨j, hij, hji⟩ := Relation.TransGen.head'_iff.1 hwalk
    obtain ⟨hi, hj⟩ := hr i j hij
    obtain rfl : i = j := hback i hi j hj (.single hij) hji
    exact hself i hij

/-- When identifiers tell steps apart and both rules are on, no closed walk follows the success path exactly if there
are no cycles to report and no self-references on the success path. -/
theorem silent_iff_no_closed_walk {flow : Flow} {settings : RuleSettings}
    (hblank : ∀ step ∈ flow.steps, Text.blank step.id = false) (hnodup : (flow.steps.map (·.id)).Nodup)
    (hcycles : settings.cycles ≠ .allow) (hself : settings.selfReference ≠ .allow) :
    (Rules.cycles flow settings = [] ∧ Rules.NoSelfRoute flow settings) ↔
      ∀ i, ¬Relation.TransGen flow.Leads i i := by
  have hbound : ∀ i j, flow.Leads i j → i < flow.steps.length ∧ j < flow.steps.length := by
    rintro i j ⟨source, target, hsource, htarget, -⟩
    exact ⟨(List.getElem?_eq_some_iff.1 hsource).1, (List.getElem?_eq_some_iff.1 htarget).1⟩
  rw [no_closed_walk_iff hbound, cycles_eq_nil_iff hblank hnodup hcycles, noSelfRoute_iff hblank hself, and_comm]

/-- A branch with a fallback, to a step that leads back to the branch and handles its own failures. -/
def pingPong : Flow where
  metadata := ⟨"f", "1.0.0", none, none, [], [], none, none⟩
  triggers := []
  steps := [⟨"a", "A", none, .branch ⟨[], some "b"⟩, none, [], [], none⟩,
    ⟨"b", "B", none, .map ⟨"x", none⟩, none, [], ["a"], some "b"⟩]
  observability := none

theorem silent_iff_no_closed_walk_of_pingPong :
    (∀ step ∈ pingPong.steps, Text.blank step.id = false) ∧ (pingPong.steps.map (·.id)).Nodup ∧
      RuleLevel.warn ≠ .allow ∧ RuleLevel.error ≠ .allow ∧
      ((Rules.cycles pingPong { cycles := .warn } = [] ∧ Rules.NoSelfRoute pingPong { cycles := .warn }) ↔
        ∀ i, ¬Relation.TransGen pingPong.Leads i i) :=
  ⟨by decide, by decide, by decide, by decide,
    silent_iff_no_closed_walk (by decide) (by decide) (by decide) (by decide)⟩

/-- The second step handles its own failures, so there is a closed walk. -/
example : (Rules.selfReference pingPong {}).map (·.path) = [some "steps[1].error"] := by decide +kernel

end FlowCheck
