import FlowCheck.Proofs.Graph.Components

/-!
# References between steps

A step refers to others by the entries of `next`, by its handler of failures, and by the conditions and the
fallback of a branch (`Step.references`).  A reference dangles if no step has the identifier that it gives;
blank targets of a branch are left to the rule on steps.

The rule on references reports the dangling ones, in order (`Rules.stepReferences_eq`), and these are the names
that the step graph has no edge for (`Graph.dropped_successors`, `Graph.dropped_error`).  So when the rule is
silent, the searches for cycles and for the steps that a run can reach follow every reference
(`Flow.FollowsReferences`).
-/

namespace FlowCheck

/-! ### References -/

/-- How a step refers to another one. -/
inductive ReferenceKind where
  | next
  | handler
  | condition
  | fallback
  deriving DecidableEq

/-- The code of dangling references of the kind. -/
def ReferenceKind.code : ReferenceKind → Code
  | .next => .invalidNextStepReference
  | .handler => .invalidErrorStepReference
  | .condition | .fallback => .invalidBranchTargetReference

/-- A step with the source as its identifier refers to the step with the target as its identifier. -/
structure Reference where
  kind : ReferenceKind
  place : Path
  source : String
  target : String

namespace Reference

/-- The target of a branch is blank. -/
def IsBlankBranch (reference : Reference) : Prop :=
  (reference.kind = .condition ∨ reference.kind = .fallback) ∧ Text.blank reference.target = true

/-- No step has the identifier; blank targets of a branch do not count. -/
def Dangles (steps : List Step) (reference : Reference) : Prop :=
  ¬(Text.blank reference.target = false ∧ ∃ step ∈ steps, step.id = reference.target) ∧ ¬reference.IsBlankBranch

instance (reference : Reference) : Decidable reference.IsBlankBranch :=
  inferInstanceAs (Decidable (_ ∧ _))

instance (steps : List Step) (reference : Reference) : Decidable (reference.Dangles steps) :=
  inferInstanceAs (Decidable (_ ∧ _))

def message (reference : Reference) : String :=
  match reference.kind with
  | .next => s!"step '{reference.source}' routes to unknown step '{reference.target}'"
  | .handler => s!"step '{reference.source}' sends failures to unknown step '{reference.target}'"
  | .condition | .fallback => s!"branch '{reference.source}' targets unknown step '{reference.target}'"

/-- What is reported of the reference if it dangles. -/
def finding (reference : Reference) : Finding :=
  ⟨some reference.place.text, reference.message, reference.kind.code.name, .error⟩

end Reference

/-- The references of a branch: the conditions in order, then the fallback. -/
def StepKind.references (i : Nat) (source : String) : StepKind → List Reference
  | .branch settings =>
    (settings.conditions.mapIdx fun j condition =>
      ⟨.condition, ⟨"steps", [.index i, .field "step", .field "conditions", .index j, .field "target"]⟩, source,
        condition.target⟩) ++
      settings.fallback.toList.map fun target =>
        ⟨.fallback, ⟨"steps", [.index i, .field "step", .field "default"]⟩, source, target⟩
  | _ => []

def Step.nextReferences (i : Nat) (step : Step) : List Reference :=
  step.next.mapIdx fun j target => ⟨.next, ⟨"steps", [.index i, .field "next", .index j]⟩, step.id, target⟩

def Step.handlerReferences (i : Nat) (step : Step) : List Reference :=
  step.error.toList.map fun target => ⟨.handler, ⟨"steps", [.index i, .field "error"]⟩, step.id, target⟩

/-- The references of the step at an index: the entries of `next`, the handler of failures, those of a branch. -/
def Step.references (i : Nat) (step : Step) : List Reference :=
  step.nextReferences i ++ step.handlerReferences i ++ step.action.references i step.id

/-- All references of a flow, step by step. -/
def Flow.references (flow : Flow) : List Reference :=
  (flow.steps.mapIdx fun i step => step.references i).flatten

/-! ### What is reported -/

section Reported

variable {steps : List Step} {i : Nat} {step : Step}

theorem declared?_isNone {id : String} :
    (Graph.declared? steps id).isNone = true ↔ ¬(Text.blank id = false ∧ ∃ step ∈ steps, step.id = id) := by
  rw [← Option.not_isSome, Bool.not_eq_true', ← Bool.not_eq_true, declared?_isSome, List.mem_map]

/-- A reference of `next` or to a handler dangles exactly if its target is not declared. -/
theorem Reference.decide_dangles {reference : Reference} (h : reference.kind = .next ∨ reference.kind = .handler) :
    decide (reference.Dangles steps) = (Graph.declared? steps reference.target).isNone := by
  have hplain : ¬reference.IsBlankBranch := by
    rcases h with hkind | hkind <;> simp [Reference.IsBlankBranch, hkind]
  rw [Bool.eq_iff_iff, decide_eq_true_iff, declared?_isNone, Reference.Dangles]
  exact and_iff_left hplain

/-- A blank target of a branch is left out. -/
theorem Reference.decide_dangles_branch {reference : Reference}
    (h : reference.kind = .condition ∨ reference.kind = .fallback) :
    decide (reference.Dangles steps) =
      (!Text.blank reference.target && (Graph.declared? steps reference.target).isNone) := by
  rw [Bool.eq_iff_iff, decide_eq_true_iff, Bool.and_eq_true, Bool.not_eq_true', declared?_isNone, Reference.Dangles,
    Reference.IsBlankBranch, and_comm]
  refine and_congr_left fun _ => ?_
  simp [h]

theorem branchRoutes_eq (i : Nat) (source : String) (action : StepKind) :
    Rules.branchRoutes (Rules.stepPath i) action =
      (action.references i source).map fun reference => (reference.place, reference.target) := by
  cases action with
  | branch settings =>
    rw [StepKind.references, List.map_append, map_mapIdx, List.map_map]
    rfl
  | _ => rfl

theorem kind_of_mem_nextReferences {reference : Reference} (h : reference ∈ step.nextReferences i) :
    reference.kind = .next := by
  obtain ⟨j, hj, rfl⟩ := List.mem_mapIdx.1 h
  rfl

theorem kind_of_mem_handlerReferences {reference : Reference} (h : reference ∈ step.handlerReferences i) :
    reference.kind = .handler := by
  obtain ⟨target, -, rfl⟩ := List.mem_map.1 h
  rfl

theorem kind_of_mem_references {source : String} {action : StepKind} {reference : Reference}
    (h : reference ∈ action.references i source) :
    (reference.kind = .condition ∨ reference.kind = .fallback) ∧ reference.source = source := by
  cases action with
  | branch settings =>
    rcases List.mem_append.1 h with h | h
    · obtain ⟨j, hj, rfl⟩ := List.mem_mapIdx.1 h
      exact ⟨.inl rfl, rfl⟩
    · obtain ⟨target, -, rfl⟩ := List.mem_map.1 h
      exact ⟨.inr rfl, rfl⟩
  | _ => cases h

/-- Conditional findings on the members of a list are the findings on those that meet the condition. -/
theorem flatten_map_when {α : Type} (as : List α) (p : α → Bool) (f : α → Finding) :
    (as.map fun a => Finding.when (p a) (f a)).flatten = (as.filter p).map f := by
  induction as with
  | nil => rfl
  | cons a as ih =>
    rw [List.map_cons, List.flatten_cons, ih, List.filter_cons]
    cases p a <;> rfl

/-- The rule reports the dangling references of a step in order. -/
theorem Rules.references_eq (steps : List Step) (i : Nat) (step : Step) :
    Rules.references steps i step =
      ((step.references i).filter fun reference => reference.Dangles steps).map Reference.finding := by
  rw [Step.references, List.filter_append, List.filter_append, List.map_append, List.map_append,
    ← flatten_map_when, ← flatten_map_when, ← flatten_map_when, Step.nextReferences, Step.handlerReferences,
    map_mapIdx, List.map_map, Rules.references, branchRoutes_eq i step.id, List.map_map]
  refine congrArg₂ _ (congrArg₂ _ ?_ ?_) (congrArg List.flatten (List.map_congr_left fun reference hmem => ?_))
  · refine congrArg (fun report => (step.next.mapIdx report).flatten) (funext₂ fun j target => ?_)
    rw [Reference.decide_dangles (.inl rfl)]
    rfl
  · refine congrArg (fun report => (step.error.toList.map report).flatten) (funext fun target => ?_)
    rw [Function.comp_apply, Reference.decide_dangles (.inr rfl)]
    rfl
  · obtain ⟨hkind, hsource⟩ := kind_of_mem_references hmem
    rw [Function.comp_apply, Reference.decide_dangles_branch hkind, Reference.finding, Reference.message, hsource]
    rcases hkind with hkind | hkind <;> rw [hkind] <;> rfl

/-- The rule reports the dangling references of all steps in order. -/
theorem Rules.stepReferences_eq (flow : Flow) :
    Rules.stepReferences flow =
      (flow.references.filter fun reference => reference.Dangles flow.steps).map Reference.finding := by
  rw [Rules.stepReferences, Flow.references, List.filter_flatten, map_mapIdx, map_flatten_mapIdx]
  refine congrArg (fun report => (flow.steps.mapIdx report).flatten) (funext₂ fun i step => ?_)
  exact Rules.references_eq flow.steps i step

end Reported

/-! ### What the step graph has no edge for -/

namespace Graph

variable {steps : List Step} {i : Nat} {step : Step} {ids : List String}

/-- The identifiers that lead nowhere. -/
def dropped (steps : List Step) (ids : List String) : List String :=
  ids.filter fun id => (declared? steps id).isNone

theorem dropped_append (as bs : List String) : dropped steps (as ++ bs) = dropped steps as ++ dropped steps bs :=
  List.filter_append ..

theorem isSome_of_dropped_eq_nil (h : dropped steps ids = []) {id : String} (hid : id ∈ ids) :
    (declared? steps id).isSome = true := by
  have hkept := List.filter_eq_nil_iff.1 h id hid
  rwa [← Option.not_isSome, Bool.not_eq_true', Bool.not_eq_false] at hkept

/-- The identifiers that lead nowhere are the targets of the references to them. -/
theorem dropped_map_target {references : List Reference} {p : Reference → Bool}
    (h : ∀ reference ∈ references, p reference = (declared? steps reference.target).isNone) :
    dropped steps (references.map (·.target)) = (references.filter p).map (·.target) := by
  rw [dropped, List.filter_map, List.filter_congr h]
  rfl

theorem map_target_nextReferences (i : Nat) (step : Step) :
    (step.nextReferences i).map (·.target) = step.next := by
  rw [Step.nextReferences, map_mapIdx, List.mapIdx_eq_zipIdx_map]
  exact List.zipIdx_map_fst 0 step.next

theorem map_target_handlerReferences (i : Nat) (step : Step) :
    (step.handlerReferences i).map (·.target) = step.error.toList := by
  rw [Step.handlerReferences, List.map_map]
  exact List.map_id _

/-- The targets of a branch are those of its references that are not blank. -/
theorem branchTargets_eq (i : Nat) (source : String) (action : StepKind) :
    action.branchTargets = ((action.references i source).map (·.target)).filter (!Text.blank ·) := by
  cases action with
  | branch settings =>
    have hconditions : (settings.conditions.mapIdx fun _ condition => condition.target) =
        settings.conditions.map (·.target) := by
      rw [List.mapIdx_eq_zipIdx_map]
      conv_rhs => rw [← List.zipIdx_map_fst 0 settings.conditions, List.map_map]
      rfl
    have hfallback : settings.fallback.toList.map id = settings.fallback.toList := List.map_id _
    rw [StepKind.branchTargets, ← hconditions, ← hfallback, StepKind.references, List.map_append, map_mapIdx,
      List.map_map]
    rfl
  | _ => rfl

theorem dropped_next (steps : List Step) (i : Nat) (step : Step) :
    dropped steps step.next =
      ((step.nextReferences i).filter fun reference => reference.Dangles steps).map (·.target) := by
  rw [← map_target_nextReferences i step]
  exact dropped_map_target fun reference hmem => Reference.decide_dangles (.inl (kind_of_mem_nextReferences hmem))

theorem dropped_branchTargets (steps : List Step) (i : Nat) (source : String) (action : StepKind) :
    dropped steps action.branchTargets =
      ((action.references i source).filter fun reference => reference.Dangles steps).map (·.target) := by
  rw [branchTargets_eq i source, dropped, List.filter_filter, List.filter_map]
  refine congrArg _ (List.filter_congr fun reference hmem => ?_)
  rw [Reference.decide_dangles_branch (kind_of_mem_references hmem).1, Bool.and_comm]
  rfl

/-- The successors that lead nowhere are the targets of the dangling references of `next` and of the branch. -/
theorem dropped_successors (steps : List Step) (i : Nat) (step : Step) :
    dropped steps step.successors =
      ((step.nextReferences i ++ step.action.references i step.id).filter fun reference =>
        reference.Dangles steps).map (·.target) := by
  rw [Step.successors, dropped_append, dropped_next steps i, dropped_branchTargets steps i step.id,
    List.filter_append, List.map_append]

theorem dropped_error (steps : List Step) (i : Nat) (step : Step) :
    dropped steps step.error.toList =
      ((step.handlerReferences i).filter fun reference => reference.Dangles steps).map (·.target) := by
  rw [← map_target_handlerReferences i step]
  exact dropped_map_target fun reference hmem => Reference.decide_dangles (.inr (kind_of_mem_handlerReferences hmem))

/-! ### A silent rule -/

/-- Without dangling references, all successors and the handler of a step lead to a step. -/
theorem dropped_eq_nil_of_silent {flow : Flow} (hsilent : Rules.stepReferences flow = []) {i : Nat} {step : Step}
    (hstep : flow.steps[i]? = some step) :
    dropped flow.steps (step.successors ++ step.error.toList) = [] := by
  have hnone : ∀ reference ∈ step.references i, ¬reference.Dangles flow.steps := by
    intro reference hmem hdangles
    rw [Rules.stepReferences_eq, List.map_eq_nil_iff, List.filter_eq_nil_iff] at hsilent
    obtain ⟨hi, rfl⟩ := List.getElem?_eq_some_iff.1 hstep
    have hall : reference ∈ flow.references :=
      List.mem_flatten.2 ⟨_, List.mem_mapIdx.2 ⟨i, hi, rfl⟩, hmem⟩
    exact hsilent reference hall (decide_eq_true hdangles)
  have hfilter : ∀ references ⊆ step.references i,
      (references.filter fun reference => reference.Dangles flow.steps) = [] :=
    fun references hsub => List.filter_eq_nil_iff.2 fun reference hmem h =>
      hnone reference (hsub hmem) (of_decide_eq_true h)
  rw [dropped_append, dropped_successors flow.steps i, dropped_error flow.steps i, hfilter, hfilter]
  · rfl
  · exact fun reference hmem => List.mem_append_left _ (List.mem_append_right _ hmem)
  · intro reference hmem
    rcases List.mem_append.1 hmem with hmem | hmem
    · exact List.mem_append_left _ (List.mem_append_left _ hmem)
    · exact List.mem_append_right _ hmem

/-- If no identifier leads nowhere, each is taken to its first declaration. -/
theorem forall₂_firstDeclares (h : dropped steps ids = []) :
    List.Forall₂ (FirstDeclares steps) ids (ids.filterMap (declared? steps)) := by
  induction ids with
  | nil => exact .nil
  | cons id ids ih =>
    obtain ⟨j, hj⟩ := Option.isSome_iff_exists.1 (isSome_of_dropped_eq_nil h List.mem_cons_self)
    have htail : dropped steps ids = [] :=
      List.filter_eq_nil_iff.2 fun other hmem => List.filter_eq_nil_iff.1 h other (List.mem_cons_of_mem _ hmem)
    rw [List.filterMap_cons_some hj]
    exact .cons (declared?_eq_some_iff.1 hj) (ih htail)

/-- The first declaration of an identifier is the step that the flow has for it. -/
theorem FirstDeclares.exists_step? {flow : Flow} {id : String} (h : FirstDeclares flow.steps id i) :
    ∃ named, flow.steps[i]? = some named ∧ flow.step? id = some named := by
  have hi := h.lt_length
  have hindex := declared?_eq_some_iff.2 h
  rw [declared?, if_neg (by rw [h.not_blank]; exact Bool.false_ne_true), List.findIdx?_eq_some_iff_getElem] at hindex
  obtain ⟨_, hid, hfirst⟩ := hindex
  refine ⟨flow.steps[i], List.getElem?_eq_getElem hi, ?_⟩
  exact List.find?_eq_some_iff_getElem.2 ⟨hid, i, hi, rfl, fun j hj => by simpa using hfirst j hj⟩

/-! ### Edges of later duplicates -/

theorem FirstDeclares.not_isLaterDuplicate {id : String} (h : FirstDeclares steps id i) :
    ¬IsLaterDuplicate steps i := by
  rintro ⟨other, -, hother, k, hk, hearlier⟩
  obtain rfl : id = other := Option.some.inj (h.declares.symm.trans hother)
  exact h.first k hk hearlier

/-- The steps that the successors of a step lead to, a later duplicate or not. -/
def successorEdges (steps : List Step) (_ : Nat) (step : Step) : List Nat :=
  step.successors.filterMap (declared? steps)

theorem edgeTable_of_getElem? {edges : List Step → Nat → Step → List Nat} (h : steps[i]? = some step) :
    edgeTable steps edges i = edges steps i step := by
  simp only [edgeTable, Array.getD_eq_getD_getElem?, List.getElem?_toArray, List.getElem?_mapIdx, h]
  rfl

/-- An edge starts at a first declaration, or it is left out. -/
theorem edge_successEdges_iff_and {j : Nat} :
    Edge steps.length (edgeTable steps successEdges) i j ↔
      ¬IsLaterDuplicate steps i ∧ Edge steps.length (edgeTable steps successorEdges) i j := by
  rw [edge_successEdges_iff, SuccessEdge, Edge, mem_edgeTable]
  refine and_congr_right fun _ => ?_
  constructor
  · rintro ⟨step, hstep, id, hroute, hdeclares⟩
    refine ⟨⟨step, hstep, ?_⟩, hdeclares.lt_length⟩
    exact mem_filterMap_declared?.2 ⟨id, (mem_successors hdeclares.not_blank).2 hroute, hdeclares⟩
  · rintro ⟨⟨step, hstep, hmem⟩, -⟩
    obtain ⟨id, hid, hdeclares⟩ := mem_filterMap_declared?.1 hmem
    exact ⟨step, hstep, id, (mem_successors hdeclares.not_blank).1 hid, hdeclares⟩

/-- No edge leads to a later duplicate. -/
theorem not_isLaterDuplicate_of_edge (i j : Nat) (h : Edge steps.length (edgeTable steps successorEdges) i j) :
    ¬IsLaterDuplicate steps j := by
  obtain ⟨step, -, hmem⟩ := mem_edgeTable.1 h.1
  obtain ⟨id, -, hdeclares⟩ := mem_filterMap_declared?.1 hmem
  exact hdeclares.not_isLaterDuplicate

/-- A walk that starts in a set stays in it if all steps lead there. -/
theorem reflTransGen_and_source {α : Type} {r : α → α → Prop} {p : α → Prop} (hp : ∀ a b, r a b → p b) {a b : α}
    (ha : p a) (h : Relation.ReflTransGen r a b) : Relation.ReflTransGen (fun c d => p c ∧ r c d) a b := by
  induction h using Relation.ReflTransGen.head_induction_on with
  | refl => exact .refl
  | head hac _ ih => exact .head ⟨ha, hac⟩ (ih (hp _ _ hac))

/-- Different steps that reach each other do so without edges of later duplicates: something leads to each of them. -/
theorem mutual_reaches_iff {j : Nat} :
    Reaches steps.length (edgeTable steps successEdges) i j ∧ Reaches steps.length (edgeTable steps successEdges) j i ↔
      Reaches steps.length (edgeTable steps successorEdges) i j ∧
        Reaches steps.length (edgeTable steps successorEdges) j i := by
  have hedges : Edge steps.length (edgeTable steps successEdges) =
      fun i j => ¬IsLaterDuplicate steps i ∧ Edge steps.length (edgeTable steps successorEdges) i j := by
    funext i j
    exact propext edge_successEdges_iff_and
  have hfirst : ∀ {i j : Nat}, i ≠ j → Reaches steps.length (edgeTable steps successorEdges) i j →
      ¬IsLaterDuplicate steps j := by
    intro i j hne hreach
    rcases Relation.ReflTransGen.cases_tail hreach with heq | ⟨k, -, hedge⟩
    · exact absurd heq.symm hne
    · exact not_isLaterDuplicate_of_edge k j hedge
  rw [Reaches, hedges]
  constructor
  · have hall : ∀ i j, ¬IsLaterDuplicate steps i ∧ Edge steps.length (edgeTable steps successorEdges) i j →
        Edge steps.length (edgeTable steps successorEdges) i j := fun _ _ hedge => hedge.2
    exact fun h => ⟨Relation.ReflTransGen.mono hall _ _ h.1, Relation.ReflTransGen.mono hall _ _ h.2⟩
  · rintro ⟨hto, hback⟩
    by_cases hne : i = j
    · rw [hne]
      exact ⟨.refl, .refl⟩
    · exact ⟨reflTransGen_and_source not_isLaterDuplicate_of_edge (hfirst (Ne.symm hne) hback) hto,
        reflTransGen_and_source not_isLaterDuplicate_of_edge (hfirst hne hto) hback⟩

/-- Components depend on nothing but which indices reach each other. -/
theorem components_congr {size : Nat} {next next' : Nat → List Nat}
    (h : ∀ i < size, ∀ j < size, (Reaches size next i j ∧ Reaches size next j i ↔
      Reaches size next' i j ∧ Reaches size next' j i)) : components size next = components size next' := by
  have hlinked : ∀ i < size, linkedTo size next i = linkedTo size next' i := by
    intro i hi
    refine List.filter_congr fun j hj => ?_
    have hj : j < size := List.mem_range.1 hj
    rw [Bool.eq_iff_iff, linked_iff hi hj, linked_iff hi hj]
    exact h i hi j hj
  rw [components_eq, components_eq]
  refine List.filterMap_congr fun i hi => ?_
  rw [hlinked i (List.mem_range.1 hi)]

/-- The search for cycles finds the same if it follows the successors of later duplicates too. -/
theorem cycles_eq_components_successorEdges (steps : List Step) :
    cycles steps = components steps.length (edgeTable steps successorEdges) :=
  components_congr fun _ _ _ _ => mutual_reaches_iff

end Graph

/-- Every reference of the flow leads to the step that the flow has for it, and the searches for cycles and for the
steps that a run can reach follow each of them. -/
structure Flow.FollowsReferences (flow : Flow) : Prop where
  resolves : ∀ step ∈ flow.steps, ∀ target, target ∈ step.successors ∨ step.error = some target →
    ∃ i named, Graph.FirstDeclares flow.steps target i ∧ Graph.declared? flow.steps target = some i ∧
      flow.steps[i]? = some named ∧ flow.step? target = some named
  cycles : ∃ next : Nat → List Nat,
    (∀ i step, flow.steps[i]? = some step →
      List.Forall₂ (Graph.FirstDeclares flow.steps) step.successors (next i)) ∧
    Graph.cycles flow.steps = Graph.components flow.steps.length next
  reachable : ∃ next : Nat → List Nat,
    (∀ i step, flow.steps[i]? = some step →
      ∃ named, List.Forall₂ (Graph.FirstDeclares flow.steps) (step.successors ++ step.error.toList) named ∧
        next i = named ++ if step.next = [] then [i + 1] else []) ∧
    Graph.reachableSteps flow.steps = Graph.reachable flow.steps.length next 0

theorem Flow.followsReferences_of_silent {flow : Flow} (hsilent : Rules.stepReferences flow = []) :
    flow.FollowsReferences where
  resolves step hstep target htarget := by
    obtain ⟨k, hk⟩ := List.mem_iff_getElem?.1 hstep
    have hmem : target ∈ step.successors ++ step.error.toList :=
      List.mem_append.2 (htarget.imp_right Option.mem_toList.2)
    obtain ⟨i, hi⟩ := Option.isSome_iff_exists.1
      (Graph.isSome_of_dropped_eq_nil (Graph.dropped_eq_nil_of_silent hsilent hk) hmem)
    have hdeclares := Graph.declared?_eq_some_iff.1 hi
    obtain ⟨named, hnamed, hfound⟩ := hdeclares.exists_step?
    exact ⟨i, named, hdeclares, hi, hnamed, hfound⟩
  cycles := by
    refine ⟨Graph.edgeTable flow.steps Graph.successorEdges, fun i step hstep => ?_,
      Graph.cycles_eq_components_successorEdges flow.steps⟩
    have hkept := Graph.dropped_eq_nil_of_silent hsilent hstep
    rw [Graph.dropped_append, List.append_eq_nil_iff] at hkept
    rw [Graph.edgeTable_of_getElem? hstep]
    exact Graph.forall₂_firstDeclares hkept.1
  reachable := by
    refine ⟨Graph.edgeTable flow.steps Graph.routes, fun i step hstep => ?_, rfl⟩
    refine ⟨_, Graph.forall₂_firstDeclares (Graph.dropped_eq_nil_of_silent hsilent hstep), ?_⟩
    rw [Graph.edgeTable_of_getElem? hstep, Graph.routes]
    simp only [List.isEmpty_iff]

/-- The rule on references reports the dangling references in order, each at its place and with the code of its kind.
These are the references that the step graph has no edge for; when there are none, the searches follow every one. -/
theorem stepReferences_reports_dropped (flow : Flow) :
    Rules.stepReferences flow =
        (flow.references.filter fun reference => reference.Dangles flow.steps).map Reference.finding ∧
      (∀ (i : Nat) (step : Step),
        Graph.dropped flow.steps step.successors =
            ((step.nextReferences i ++ step.action.references i step.id).filter fun reference =>
              reference.Dangles flow.steps).map (·.target) ∧
          Graph.dropped flow.steps step.error.toList =
            ((step.handlerReferences i).filter fun reference => reference.Dangles flow.steps).map (·.target)) ∧
      (Rules.stepReferences flow = [] → flow.FollowsReferences) :=
  ⟨Rules.stepReferences_eq flow,
    fun i step => ⟨Graph.dropped_successors flow.steps i step, Graph.dropped_error flow.steps i step⟩,
    Flow.followsReferences_of_silent⟩

/-- A branch with a blank fallback, a step that leads back to it, a later duplicate that leads on, and the last
step. -/
def crossroads : Flow where
  metadata := ⟨"f", "1.0.0", none, none, [], [], none, none⟩
  triggers := []
  steps := [⟨"a", "A", none, .branch ⟨[⟨"$.x", "b"⟩], some " "⟩, none, [], ["c"], none⟩,
    ⟨"b", "B", none, .map ⟨"x", none⟩, none, [], ["a", "c"], some "c"⟩,
    ⟨"a", "A", none, .map ⟨"x", none⟩, none, [], ["b"], some "a"⟩,
    ⟨"c", "C", none, .map ⟨"x", none⟩, none, [], [], none⟩]
  observability := none

theorem stepReferences_reports_dropped_of_crossroads :
    Rules.stepReferences crossroads = [] ∧ crossroads.FollowsReferences ∧
      Graph.cycles crossroads.steps = [[0, 1]] := by
  have hsilent : Rules.stepReferences crossroads = [] := by decide +kernel
  have hrows : crossroads.steps.mapIdx (Graph.successEdges crossroads.steps) = [[3, 1], [0, 3], [], []] := by
    decide +kernel
  have hcycles : Graph.cycles crossroads.steps = [[0, 1]] := by
    rw [Graph.cycles, Graph.edgeTable, hrows]
    cbv
  obtain ⟨-, -, hfollows⟩ := stepReferences_reports_dropped crossroads
  exact ⟨hsilent, hfollows hsilent, hcycles⟩

/-- References of all kinds that lead nowhere; the blank fallback is left to the rule on steps. -/
example : (Rules.stepReferences { crossroads with steps :=
      [⟨"a", "A", none, .branch ⟨[⟨"$.x", "ghost"⟩, ⟨"$.y", "a"⟩], some " "⟩, none, [], ["a", " "], some "c"⟩] }).map
        (fun finding => (finding.path, finding.code)) =
    [(some "steps[0].next[1]", "INVALID_NEXT_STEP_REFERENCE"), (some "steps[0].error", "INVALID_ERROR_STEP_REFERENCE"),
      (some "steps[0].step.conditions[0].target", "INVALID_BRANCH_TARGET_REFERENCE")] := by decide +kernel

end FlowCheck
