import FlowCheck.Proofs.Graph.References

/-!
# Identifiers that are blank or taken

A pass over the steps that notes each identifier where it stands first (`Graph.noted`) ends with the table in
which the rules on the step graph look names up: one more step keeps the table right (`Graph.declared?_append`),
so the table of a whole pass is (`Graph.noted_eq_declared?`).

The rule on identifiers reports a step exactly if its identifier is blank or an earlier step has it, in order, and it
names the first one that has it (`identifiers_are_reported_exactly`).
-/

namespace FlowCheck

/-! ### One pass -/

namespace Graph

variable {steps : List Step} {i : Nat} {step : Step}

/-- The table after one more step: a blank identifier is not noted, and an identifier keeps its first place. -/
def note (table : String → Option Nat) (i : Nat) (step : Step) (id : String) : Option Nat :=
  (table id).or (if Text.blank step.id = false ∧ step.id = id then some i else none)

/-- The table after a pass over the steps. -/
def noted (steps : List Step) : String → Option Nat :=
  steps.zipIdx.foldl (fun table entry => note table entry.2 entry.1) fun _ => none

/-- One more step is noted as it is looked up. -/
theorem declared?_append (steps : List Step) (step : Step) :
    declared? (steps ++ [step]) = note (declared? steps) steps.length step := by
  funext id
  unfold note declared?
  cases hblank : Text.blank id with
  | true =>
    have hother : ¬(Text.blank step.id = false ∧ step.id = id) := by
      rintro ⟨hfalse, rfl⟩
      rw [hblank] at hfalse
      cases hfalse
    rw [if_pos rfl, if_pos rfl, if_neg hother]
    rfl
  | false =>
    rw [if_neg Bool.false_ne_true, if_neg Bool.false_ne_true, List.findIdx?_append, List.findIdx?_singleton]
    by_cases hid : step.id = id
    · simp [hid, hblank]
    · simp [hid]

/-- A pass over the steps finds where each identifier is declared first. -/
theorem noted_eq_declared? (steps : List Step) : noted steps = declared? steps := by
  induction steps using List.reverseRecOn with
  | nil =>
    funext id
    simp [noted, declared?]
  | append_singleton steps step ih =>
    rw [declared?_append, ← ih, noted, noted, List.zipIdx_append, List.foldl_append, Nat.zero_add]
    rfl

/-! ### What is at fault -/

/-- The identifier of the step at the index is blank. -/
def IsUnnamed (steps : List Step) (i : Nat) : Prop :=
  ∃ id, Text.blank id = true ∧ (steps[i]?).map (·.id) = some id

/-- There is no fault exactly if identifiers tell steps apart. -/
theorem no_fault_iff :
    (∀ i, ¬(IsUnnamed steps i ∨ IsLaterDuplicate steps i)) ↔
      (∀ step ∈ steps, Text.blank step.id = false) ∧ (steps.map (·.id)).Nodup := by
  constructor
  · intro h
    have hnamed : ∀ step ∈ steps, Text.blank step.id = false := by
      intro step hstep
      obtain ⟨i, hi⟩ := List.mem_iff_getElem?.1 hstep
      refine Bool.eq_false_iff.2 fun hblank => h i (.inl ⟨step.id, hblank, ?_⟩)
      rw [hi, Option.map_some]
    refine ⟨hnamed, List.nodup_iff_getElem?_ne_getElem?.2 fun k i hki hi hsame => h i (.inr ?_)⟩
    -- the later of two steps with one identifier would be a duplicate
    rw [List.length_map] at hi
    rw [List.getElem?_map, List.getElem?_map, List.getElem?_eq_getElem hi, Option.map_some] at hsame
    exact ⟨_, hnamed _ (List.getElem_mem hi), by rw [List.getElem?_eq_getElem hi, Option.map_some], k, hki, hsame⟩
  · rintro ⟨hnamed, hnodup⟩ i (⟨id, hblank, hid⟩ | ⟨id, -, hid, k, hki, hearlier⟩)
    · obtain ⟨step, hstep, rfl⟩ := Option.map_eq_some_iff.1 hid
      rw [hnamed step (List.mem_of_getElem? hstep)] at hblank
      cases hblank
    · obtain ⟨step, hstep, -⟩ := Option.map_eq_some_iff.1 hid
      have hi : i < (steps.map (·.id)).length := by
        rw [List.length_map]
        exact (List.getElem?_eq_some_iff.1 hstep).1
      refine List.nodup_iff_getElem?_ne_getElem?.1 hnodup k i hki hi ?_
      rw [List.getElem?_map, List.getElem?_map, hearlier, hid]

end Graph

/-! ### What is reported -/

/-- What is said of the identifier of the step at the index: it is blank, or it belongs to an earlier step, the first
one that has it and the one that the flow has for it. -/
inductive Flow.SaysOfIdentifier (flow : Flow) (i : Nat) : Finding → Prop where
  | unnamed (step : Step) (hstep : flow.steps[i]? = some step) (hblank : Text.blank step.id = true) :
    flow.SaysOfIdentifier i
      ⟨some s!"steps[{i}].id", s!"step '{step.name}' has an empty id", "STEP_ID_MISSING", .error⟩
  | duplicate (step named : Step) (first : Nat) (hstep : flow.steps[i]? = some step)
    (hfirst : Graph.FirstDeclares flow.steps step.id first) (hlt : first < i)
    (hnamed : flow.steps[first]? = some named) (hfound : flow.step? step.id = some named) :
    flow.SaysOfIdentifier i
      ⟨some s!"steps[{i}].id", s!"duplicate step id '{step.id}' (first declared at steps[{first}])",
        "DUPLICATE_STEP_ID", .error⟩

namespace Rules

variable {flow : Flow} {i : Nat} {step : Step}

theorem text_identifierPath (i : Nat) : ((stepPath i).field "id").text = s!"steps[{i}].id" := by
  have hopen : "steps[" = "steps" ++ "[" := rfl
  have hclose : "].id" = "]" ++ "." ++ "id" := rfl
  have hroot : (Path.mk "steps" []).text = "steps" := rfl
  rw [Path.text_field, stepPath, Path.text_index, hroot]
  change _ = "steps[" ++ toString i ++ "].id"
  rw [hopen, hclose]
  simp only [String.append_assoc]
  rfl

/-- The rule on one step: it says nothing of a first declaration, and one thing of every other step. -/
theorem stepId_cases (hstep : flow.steps[i]? = some step) :
    stepId flow.steps i step = [] ∧ ¬(Graph.IsUnnamed flow.steps i ∨ Graph.IsLaterDuplicate flow.steps i) ∨
      (Graph.IsUnnamed flow.steps i ∨ Graph.IsLaterDuplicate flow.steps i) ∧
        ∃ finding, stepId flow.steps i step = [finding] ∧ flow.SaysOfIdentifier i finding := by
  have hid : (flow.steps[i]?).map (·.id) = some step.id := by rw [hstep, Option.map_some]
  cases hblank : Text.blank step.id with
  | true =>
    refine .inr ⟨.inl ⟨step.id, hblank, hid⟩, _, ?_, .unnamed step hstep hblank⟩
    rw [stepId, if_pos hblank, Finding.error, text_identifierPath]
    rfl
  | false =>
    have hnamed : ¬Graph.IsUnnamed flow.steps i := by
      rintro ⟨other, hother, hsame⟩
      obtain rfl : step.id = other := Option.some.inj (hid.symm.trans hsame)
      rw [hblank] at hother
      cases hother
    obtain ⟨first, hle, hfirst⟩ := Graph.exists_firstDeclares hblank hid
    rw [stepId, hblank, if_neg Bool.false_ne_true, Graph.declared?_eq_some_iff.2 hfirst]
    rcases Nat.lt_or_eq_of_le hle with hlt | rfl
    · obtain ⟨named, hat, hfound⟩ := hfirst.exists_step?
      refine .inr ⟨.inr ⟨step.id, hblank, hid, first, hlt, hfirst.declares⟩, _, ?_,
        .duplicate step named first hstep hfirst hlt hat hfound⟩
      have hne : (first != i) = true := bne_iff_ne.2 (by omega)
      simp only [hne, Finding.when, if_true, Finding.error, text_identifierPath]
      rfl
    · refine .inl ⟨?_, fun h => h.elim hnamed hfirst.not_isLaterDuplicate⟩
      simp only [bne_self_eq_false, Finding.when, Bool.false_eq_true, if_false]

/-- The indices of the steps whose identifiers are reported. -/
def reportedIdentifiers (flow : Flow) : List Nat :=
  (List.range flow.steps.length).filter fun i =>
    (flow.steps[i]?).any fun step => !(stepId flow.steps i step).isEmpty

theorem mem_reportedIdentifiers :
    i ∈ reportedIdentifiers flow ↔ Graph.IsUnnamed flow.steps i ∨ Graph.IsLaterDuplicate flow.steps i := by
  rw [reportedIdentifiers, List.mem_filter, List.mem_range]
  constructor
  · rintro ⟨hi, hany⟩
    have hstep := List.getElem?_eq_getElem hi
    rw [hstep, Option.any_some] at hany
    rcases stepId_cases hstep with ⟨hnone, -⟩ | ⟨hfault, -⟩
    · rw [hnone] at hany
      cases hany
    · exact hfault
  · intro hfault
    have hi : i < flow.steps.length := by
      rcases hfault with ⟨_, -, hid⟩ | ⟨_, -, hid, -⟩ <;>
        exact (List.getElem?_eq_some_iff.1 (Option.map_eq_some_iff.1 hid).choose_spec.1).1
    have hstep := List.getElem?_eq_getElem hi
    refine ⟨hi, ?_⟩
    rw [hstep, Option.any_some]
    rcases stepId_cases hstep with ⟨-, hsound⟩ | ⟨-, finding, hone, -⟩
    · exact absurd hfault hsound
    · rw [hone]
      rfl

theorem forall₂_reportedIdentifiers (flow : Flow) :
    List.Forall₂ flow.SaysOfIdentifier (reportedIdentifiers flow) (duplicateStepIds flow) := by
  refine forall₂_flatten_mapIdx fun i hi => ?_
  rcases stepId_cases (List.getElem?_eq_getElem hi) with ⟨hnone, -⟩ | ⟨-, hone⟩
  · exact .inl hnone
  · exact .inr hone

end Rules

/-- One pass over the steps notes each identifier where it is declared first.  The rule on identifiers makes one
finding for each step whose identifier is blank or belongs to an earlier step, in order, and names the first
step that has it; so it is silent exactly if identifiers are not blank and differ. -/
theorem identifiers_are_reported_exactly (flow : Flow) :
    (∀ id i, Graph.noted flow.steps id = some i ↔ Graph.FirstDeclares flow.steps id i) ∧
      (∃ indices : List Nat, indices.Pairwise (· < ·) ∧
        (∀ i, i ∈ indices ↔ Graph.IsUnnamed flow.steps i ∨ Graph.IsLaterDuplicate flow.steps i) ∧
        List.Forall₂ flow.SaysOfIdentifier indices (Rules.duplicateStepIds flow)) ∧
      (Rules.duplicateStepIds flow = [] ↔
        (∀ step ∈ flow.steps, Text.blank step.id = false) ∧ (flow.steps.map (·.id)).Nodup) := by
  have hreported := Rules.forall₂_reportedIdentifiers flow
  refine ⟨fun id i => ?_, ⟨Rules.reportedIdentifiers flow, List.pairwise_lt_range.filter _,
    fun i => Rules.mem_reportedIdentifiers, hreported⟩, ?_⟩
  · rw [Graph.noted_eq_declared?, Graph.declared?_eq_some_iff]
  · rw [← Graph.no_fault_iff, ← List.length_eq_zero_iff, ← hreported.length_eq, List.length_eq_zero_iff,
      List.eq_nil_iff_forall_not_mem]
    exact forall_congr' fun i => not_congr Rules.mem_reportedIdentifiers

/-- Of the identifiers a, blank, b, a, blank and a, all are reported but the first a and b. -/
example : (Rules.duplicateStepIds { crossroads with steps := ["a", " ", "b", "a", "", "a"].map (fun id =>
      ⟨id, "S", none, .map ⟨"x", none⟩, none, [], [], none⟩) }).map (fun finding => (finding.path, finding.code)) =
    [(some "steps[1].id", "STEP_ID_MISSING"), (some "steps[3].id", "DUPLICATE_STEP_ID"),
      (some "steps[4].id", "STEP_ID_MISSING"), (some "steps[5].id", "DUPLICATE_STEP_ID")] := by decide +kernel

end FlowCheck
