import FlowCheck.Proofs.Structure.Acceptance
import FlowCheck.Proofs.Structure.Places

/-!
# No element hides another

The findings at a trigger or a step, and below it, are what its check says of it alone (`filter_parts`), so they
do not depend on the rest of the document; an element that cannot be read has some.  All findings on a mapping
are in document order.  Together: `elements_are_checked_alone`.

One list collects the findings of all parts, and whether a part is read as a whole depends on what its own pieces
report.  That this is not disturbed by other parts is what the places show: the pieces of a document have different
places, and each piece reports below its own.
-/

namespace FlowCheck.Structure

/-- The findings that keep a document from being read as a flow. -/
def findings (tree : Value) : List Finding :=
  match check tree with
  | .ok _ => []
  | .error findings => findings

/-! ### Pieces -/

section Pieces

variable {parts : List (Place × List Finding)} {place : Place} {reported : List Finding}

/-- The findings below the place of a piece are those of the piece. -/
theorem filter_flatMap_pieces (hlocated : ∀ piece ∈ parts, LocatedAt piece.1.path piece.2)
    (hbefore : parts.Pairwise (·.1.Before ·.1)) (h : (place, reported) ∈ parts) :
    (parts.flatMap Prod.snd).filter (·.isUnder place.path) = reported := by
  obtain ⟨front, back, rfl⟩ := List.append_of_mem h
  obtain ⟨-, hback, hfront⟩ := List.pairwise_append.1 hbefore
  have hother : ∀ pieces : List (Place × List Finding), (∀ piece ∈ pieces, LocatedAt piece.1.path piece.2) →
      (∀ piece ∈ pieces, place ≠ piece.1) → (pieces.flatMap Prod.snd).filter (·.isUnder place.path) = [] := by
    intro pieces hlocated hne
    simp only [List.filter_flatMap, List.flatMap_eq_nil_iff]
    exact fun piece hpiece => (hlocated piece hpiece).filter_ne (hne piece hpiece)
  simp only [List.forall_mem_append, List.forall_mem_cons] at hlocated
  obtain ⟨hlocatedFront, hself, hlocatedBack⟩ := hlocated
  rw [List.flatMap_append, List.flatMap_cons, List.filter_append, List.filter_append, hself.filter_self,
    hother front hlocatedFront fun piece hpiece => ((hfront piece hpiece _ List.mem_cons_self).ne).symm,
    hother back hlocatedBack fun piece hpiece => ((List.pairwise_cons.1 hback).1 piece hpiece).ne,
    List.nil_append, List.append_nil]

end Pieces

/-! ### Document order -/

/-- Each finding is at or below a place, and the places are in document order. -/
structure InDocumentOrder (findings : List Finding) : Prop where
  placed : ∀ finding ∈ findings, ∃ place : Place, finding.isUnder place.path = true
  ordered : findings.Pairwise fun a b => ∀ p q : Place,
    a.isUnder p.path = true → b.isUnder q.path = true → p = q ∨ p.Before q

theorem inDocumentOrder_of_locatedAt {place : Place} {findings : List Finding} (h : LocatedAt place.path findings) :
    InDocumentOrder findings := by
  refine ⟨fun finding hmem => ⟨place, (h.isUnder_iff hmem).2 rfl⟩, ?_⟩
  refine List.pairwise_of_forall_mem_list fun a ha b hb p q hp hq => Or.inl ?_
  rw [(h.isUnder_iff ha).1 hp, (h.isUnder_iff hb).1 hq]

theorem inDocumentOrder_flatMap {parts : List (Place × List Finding)}
    (hlocated : ∀ piece ∈ parts, LocatedAt piece.1.path piece.2) (hbefore : parts.Pairwise (·.1.Before ·.1)) :
    InDocumentOrder (parts.flatMap Prod.snd) := by
  constructor
  · intro finding hmem
    obtain ⟨piece, hpiece, hfinding⟩ := List.mem_flatMap.1 hmem
    exact (inDocumentOrder_of_locatedAt (hlocated piece hpiece)).placed finding hfinding
  · refine List.pairwise_flatMap.2 ⟨fun piece hpiece =>
      (inDocumentOrder_of_locatedAt (hlocated piece hpiece)).ordered, ?_⟩
    refine hbefore.imp_of_mem fun {first second} hfirst hsecond hlt a ha b hb p q hp hq => Or.inr ?_
    rw [((hlocated first hfirst).isUnder_iff ha).1 hp, ((hlocated second hsecond).isUnder_iff hb).1 hq]
    exact hlt

/-! ### Elements -/

/-- The lists of a document whose elements are checked on their own. -/
inductive Series where
  | triggers
  | steps

namespace Series

/-- The field of the document that holds the list. -/
def name : Series → String
  | triggers => "triggers"
  | steps => "steps"

/-- The place of an element. -/
def place : Series → Nat → Place
  | triggers => .trigger
  | steps => .step

def check : Series → Path → Value → List Finding
  | triggers => trigger
  | steps => step

/-- The element can be read on its own. -/
def Reads : Series → Value → Prop
  | triggers, v => ∃ t, Trigger.schema.decode .direct v = .ok t
  | steps, v => ∃ s, Step.record.decode .direct v = .ok s

theorem reads_of_check_eq_nil {series : Series} {path : Path} {v : Value} (h : series.check path v = []) :
    series.Reads v := by
  cases series with
  | triggers => exact (trigger_eq_nil.1 h).1
  | steps => exact (step_eq_nil.1 h).2

end Series

section Elements

variable {series : Series} {fields : List (String × Value)} {items : List Value} {i : Nat} {v : Value}

/-- An element is a piece of its document. -/
theorem element_mem_pieces (hlist : fields.lookup series.name = some (.list items)) (hv : items[i]? = some v) :
    (series.place i, series.check (series.place i).path v) ∈ pieces fields := by
  obtain ⟨hi, rfl⟩ := List.getElem?_eq_some_iff.1 hv
  refine List.mem_cons_of_mem _ (List.mem_append_left _ ?_)
  cases series with
  | triggers =>
    refine List.mem_append_left _ ?_
    rw [triggerPieces, show fields.lookup "triggers" = some (.list items) from hlist]
    exact List.mem_mapIdx.2 ⟨i, hi, rfl⟩
  | steps =>
    refine List.mem_append_right _ ?_
    rw [stepPieces, show fields.lookup "steps" = some (.list items) from hlist]
    exact List.mem_mapIdx.2 ⟨i, hi, rfl⟩

/-- The findings on the parts of a document below an element are those of its check. -/
theorem filter_parts (hlist : fields.lookup series.name = some (.list items)) (hv : items[i]? = some v) :
    (parts fields).filter (·.isUnder (series.place i).path) = series.check (series.place i).path v := by
  rw [parts_eq_flatMap_pieces]
  exact filter_flatMap_pieces (locatedAt_pieces fields) before_pieces (element_mem_pieces hlist hv)

/-- The findings on a mapping are those on its parts or, if there are none, on its shape. -/
theorem findings_object_eq (fields : List (String × Value)) :
    findings (.object fields) = parts fields ∨ parts fields = [] ∧ ∃ flow, findings (.object fields) = shape flow := by
  cases hparts : parts fields with
  | cons finding others => exact Or.inl (by simp [findings, check, hparts])
  | nil =>
    -- the parts are silent, so the whole can be read, and only its steps may be missing
    obtain ⟨flow, hflow⟩ := exists_assembled_of_parts hparts
    refine Or.inr ⟨rfl, flow, ?_⟩
    simp only [findings, check, hparts, decode_eq_ok_iff_assembled.2 hflow, List.isEmpty_nil, Bool.not_true,
      Bool.false_eq_true, if_false]
    cases hshape : shape flow <;> simp

/-- The findings on a mapping are those on its parts; if there are none, they are about its list of steps. -/
theorem findings_object (fields : List (String × Value)) :
    findings (.object fields) = parts fields ∨
      parts fields = [] ∧ LocatedAt Place.steps.path (findings (.object fields)) := by
  rcases findings_object_eq fields with hparts | ⟨hnil, flow, hshape⟩
  · exact Or.inl hparts
  · rw [hshape]
    exact Or.inr ⟨hnil, locatedAt_shape flow⟩

theorem filter_findings (hlist : fields.lookup series.name = some (.list items)) (hv : items[i]? = some v) :
    (findings (.object fields)).filter (·.isUnder (series.place i).path) = series.check (series.place i).path v := by
  rw [← filter_parts hlist hv]
  rcases findings_object fields with hparts | ⟨hnil, hsteps⟩
  · rw [hparts]
  · have hne : series.place i ≠ .steps := by cases series <;> simp [Series.place]
    rw [hnil, hsteps.filter_ne hne]
    rfl

end Elements

/-- What is reported at an element or below it depends on the element only, and is something if the element cannot be
read; all findings on a mapping are in document order. -/
theorem elements_are_checked_alone :
    (∀ (series : Series) (fields others : List (String × Value)) (items rest : List Value) (i : Nat) (v : Value),
      fields.lookup series.name = some (.list items) → others.lookup series.name = some (.list rest) →
      items[i]? = some v → rest[i]? = some v →
      (findings (.object fields)).filter (·.isUnder (series.place i).path) =
          (findings (.object others)).filter (·.isUnder (series.place i).path) ∧
        (¬series.Reads v → (findings (.object fields)).filter (·.isUnder (series.place i).path) ≠ [])) ∧
    ∀ fields : List (String × Value), InDocumentOrder (findings (.object fields)) := by
  refine ⟨fun series fields others items rest i v hitems hrest hv hw => ?_, fun fields => ?_⟩
  · rw [filter_findings hitems hv, filter_findings hrest hw]
    exact ⟨rfl, fun hreads hnil => hreads (Series.reads_of_check_eq_nil hnil)⟩
  · rcases findings_object fields with hparts | ⟨-, hsteps⟩
    · rw [hparts, parts_eq_flatMap_pieces]
      exact inDocumentOrder_flatMap (locatedAt_pieces fields) before_pieces
    · exact inDocumentOrder_of_locatedAt hsteps

/-- A step with a condition that is null. -/
def faultyStep : Value :=
  .object [("id", .string "b"), ("name", .string "B"),
    ("step", .object [("conditions", .list [.null]), ("type", .string "branch")])]

/-- A document with faults before the step with a fault. -/
def faultyBefore : List (String × Value) :=
  [("metadata", .null), ("steps", .list [.list [], faultyStep]), ("triggers", .bool true)]

/-- A document with faults after the step with a fault. -/
def faultyAfter : List (String × Value) :=
  [("metadata", .object [("name", .string "f"), ("version", .string "1.0.0")]), ("observability", .list []),
    ("steps", .list [.object [("id", .string "a"), ("name", .string "A"),
      ("step", .object [("expression", .string "x"), ("type", .string "map")])], faultyStep, .null])]

theorem faultyStep_is_checked_alone :
    (faultyBefore.lookup Series.steps.name = some (.list [.list [], faultyStep]) ∧ ¬Series.steps.Reads faultyStep) ∧
      (findings (.object faultyBefore)).filter (·.isUnder (Series.steps.place 1).path) =
          (findings (.object faultyAfter)).filter (·.isUnder (Series.steps.place 1).path) ∧
        (findings (.object faultyBefore)).filter (·.isUnder (Series.steps.place 1).path) ≠ [] := by
  have hreads : ¬Series.steps.Reads faultyStep := fun ⟨_, h⟩ => nomatch h
  have h := elements_are_checked_alone.1 .steps faultyBefore faultyAfter _ _ 1 faultyStep rfl rfl rfl rfl
  exact ⟨⟨rfl, hreads⟩, h.1, h.2 hreads⟩

example : (findings (.object faultyBefore)).map (·.path) =
    [some "metadata", some "triggers", some "steps[0]", some "steps[1].step.conditions[0]"] := by decide

end FlowCheck.Structure
