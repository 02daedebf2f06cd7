import FlowCheck.Proofs.Distinct
import FlowCheck.Proofs.Outcomes
import FlowCheck.Proofs.Structure.Independence

/-!
# Each fault in the structure is reported once

All findings on the structure have the same code, so they must have different paths.  A container is reported
either in its parts or as a whole (`blamed_partsFirst`), so no finding is at a place that another one is below;
the parts of a container are fields whose names do not begin with each other, and elements of lists.  The text
that ends a path may be any field name of the document: a container that is read as a whole has only one finding
(`blamed_conformance`), so nothing has to be told from it below the container.
-/

namespace FlowCheck.Structure

/-- The findings say of places at the paths or further, no two of the same place, that the structure is wrong
there. -/
abbrev Blamed (paths : List Path) (findings : List Finding) : Prop :=
  Spread [.schemaValidationError] paths findings

section Combinators

variable {path : Path}

theorem blamed_schema (path : Path) (message : String) : Blamed [path] [.schema path.text message] :=
  spread_singleton (List.mem_singleton_self _)

/-- What cannot be read as a whole is blamed once. -/
theorem blamed_conformance {α : Type} (schema : Schema α) (path : Path) (v : Value) :
    Blamed [path] (conformance schema path v) := by
  unfold conformance
  split
  · exact spread_nil
  · rename_i mismatch _
    simp only [mismatchFinding]
    cases blamedField v mismatch.message with
    | none => exact blamed_schema path _
    | some field => exact (blamed_schema (path.field field) _).of_field

theorem blamed_partsFirst {parts whole : List Finding} {paths : List Path} (hparts : Blamed paths parts)
    (hwhole : Blamed paths whole) : Blamed paths (partsFirst parts whole) := by
  unfold partsFirst
  split
  · exact hwhole
  · exact hparts

theorem blamed_elements {v : Value} {check : Path → Value → List Finding} (h : ∀ path v, Blamed [path] (check path v)) :
    Blamed [path] (elements path v check) := by
  unfold elements
  split
  · exact spread_flatten_mapIdx fun i hi => h _ _
  · exact blamed_schema path _

theorem blamed_mapping {v : Value} {check : List (String × Value) → List Finding}
    (h : ∀ fields, Blamed [path] (check fields)) : Blamed [path] (mapping path v check) := by
  unfold mapping
  split
  · exact h _
  · exact blamed_schema path _

section Fields

variable {fields : List (String × Value)} {name : String} {check : Value → List Finding}

theorem blamed_present (h : ∀ v, Blamed [path] (check v)) : Blamed [path] (present fields name check) := by
  unfold present
  split
  · exact h _
  · exact spread_nil

theorem blamed_given (h : ∀ v, Blamed [path] (check v)) : Blamed [path] (given fields name check) := by
  refine blamed_present fun v => ?_
  split
  · exact spread_nil
  · exact h v

theorem blamed_demanded (h : ∀ v, Blamed [.mk name []] (check v)) :
    Blamed [.mk name []] (demanded fields name check) := by
  unfold demanded
  split
  · exact h _
  · have hname := blamed_schema (.mk name []) s!"missing field `{name}`"
    rwa [text_section] at hname

/-- An optional part below the path. -/
theorem blamed_given_conformance {α : Type} {schema : Schema α} :
    Blamed ([name].map path.field) (given fields name (conformance schema (path.field name))) :=
  blamed_given (blamed_conformance schema (path.field name))

/-- A list of parts below the path. -/
theorem blamed_present_elements {α : Type} {schema : Schema α} :
    Blamed ([name].map path.field) (present fields name (elements (path.field name) · (conformance schema))) :=
  blamed_present fun _ => blamed_elements (blamed_conformance schema)

end Fields

end Combinators

/-! ### The parts of a document -/

theorem blamed_metadata (v : Value) : Blamed [.mk "metadata" []] (metadata v) := by
  refine blamed_mapping fun fields => blamed_partsFirst ?_ (blamed_conformance _ _ _)
  exact ((blamed_present_elements.append_fields blamed_given_conformance (by decide)).append_fields
    blamed_given_conformance (by decide)).of_fields

theorem blamed_trigger (path : Path) (v : Value) : Blamed [path] (trigger path v) := by
  refine blamed_partsFirst ?_ (blamed_conformance _ _ _)
  exact (blamed_given_conformance.append_fields blamed_given_conformance (by decide)).of_fields

theorem blamed_stepKind (path : Path) (v : Value) : Blamed [path] (stepKind path v) :=
  blamed_partsFirst blamed_present_elements.of_fields (blamed_conformance _ _ _)

theorem blamed_step (path : Path) (v : Value) : Blamed [path] (step path v) := by
  refine blamed_mapping fun fields => blamed_partsFirst ?_ (blamed_conformance _ _ _)
  have hkind : Blamed (["step"].map path.field) (present fields "step" (stepKind (path.field "step"))) :=
    blamed_present (blamed_stepKind (path.field "step"))
  exact ((hkind.append_fields blamed_given_conformance (by decide)).append_fields
    blamed_present_elements (by decide)).of_fields

theorem blamed_observability (v : Value) : Blamed [.mk "observability" []] (observability v) :=
  blamed_mapping fun _ => blamed_partsFirst blamed_given_conformance.of_fields (blamed_conformance _ _ _)

theorem blamed_parts (fields : List (String × Value)) :
    Blamed (["metadata", "triggers", "steps", "observability"].map (Path.mk · [])) (parts fields) := by
  have hmetadata : Blamed (["metadata"].map (Path.mk · [])) (demanded fields "metadata" metadata) :=
    blamed_demanded blamed_metadata
  have htriggers : Blamed (["triggers"].map (Path.mk · []))
      (present fields "triggers" (elements (.mk "triggers" []) · trigger)) :=
    blamed_present fun _ => blamed_elements blamed_trigger
  have hsteps : Blamed (["steps"].map (Path.mk · [])) (demanded fields "steps" (elements (.mk "steps" []) · step)) :=
    blamed_demanded fun _ => blamed_elements blamed_step
  have hobservability : Blamed (["observability"].map (Path.mk · []))
      (given fields "observability" observability) := blamed_given blamed_observability
  exact ((hmetadata.append_sections htriggers (by decide)).append_sections hsteps (by decide)).append_sections
    hobservability (by decide)

/-! ### Documents -/

theorem distinct_findings (tree : Value) : Distinct (findings tree) := by
  cases tree with
  | object fields =>
    rcases findings_object_eq fields with hparts | ⟨-, flow, hshape⟩
    · rw [hparts]
      exact (blamed_parts fields).distinct
    · rw [hshape, shape]
      split
      · exact List.pairwise_singleton _ _
      · exact List.Pairwise.nil
  | _ => exact List.pairwise_singleton _ _

/-- All findings on the structure have the same code. -/
theorem code_of_findings {tree : Value} :
    ∀ finding ∈ findings tree, finding.code = Code.schemaValidationError.name := by
  intro finding hmem
  unfold findings at hmem
  split at hmem
  · exact absurd hmem List.not_mem_nil
  · rename_i hcheck
    exact ((grounded_of_check hcheck).2 finding hmem).1

/-- No two findings on the structure have the same path. -/
theorem nodup_paths (tree : Value) : ((findings tree).map (·.path)).Nodup := by
  refine List.pairwise_map.2 ((distinct_findings tree).imp_of_mem fun {a b} ha hb hdiffers hpath => ?_)
  exact hdiffers hpath ((code_of_findings a ha).trans (code_of_findings b hb).symm)

end FlowCheck.Structure
