import FlowCheck.Proofs.Findings
import FlowCheck.Structure.Basic

/-!
# Where the findings on the structure are

Every finding on a part of a document, and on the shape of a flow, is about a place in the document and blocks
(`located_parts`, `locatedAt_shape`).  The check of a part at a path only makes findings at that path or below
it (`locatedAt_metadata`, `locatedAt_trigger`, `locatedAt_step`, `locatedAt_observability`): each combinator
keeps this, and the leaves are fields and elements that are given by their path.
-/

namespace FlowCheck

/-! ### Places below a path -/

/-- The text is that of the path or of a place below it. -/
def Path.Covers (path : Path) (text : String) : Prop :=
  text = path.text ∨ ∃ rest, text = path.text ++ "." ++ rest

theorem Path.Covers.of_below {path below : Path} {text rest : String} (hbelow : below.text = path.text ++ "." ++ rest)
    (h : below.Covers text) : path.Covers text := by
  rcases h with rfl | ⟨more, rfl⟩
  · exact Or.inr ⟨rest, hbelow⟩
  · exact Or.inr ⟨rest ++ "." ++ more, by simp only [hbelow, String.append_assoc]⟩

namespace Structure

/-! ### The combinators -/

/-- All findings say that a place in the document does not have the shape of a flow. -/
def Located (findings : List Finding) : Prop :=
  ∀ finding ∈ findings, ∃ path message, finding = .schema path message

/-- All findings say so of the path or of a place below it. -/
def LocatedAt (path : Path) (findings : List Finding) : Prop :=
  ∀ finding ∈ findings, ∃ text message, path.Covers text ∧ finding = .schema text message

theorem Located.path_ne_none {findings : List Finding} (h : Located findings) {finding : Finding}
    (hmem : finding ∈ findings) : finding.path ≠ none := by
  obtain ⟨path, message, rfl⟩ := h finding hmem
  exact Option.some_ne_none path

theorem Located.isBlocking {findings : List Finding} (h : Located findings) {finding : Finding}
    (hmem : finding ∈ findings) : finding.isBlocking = true := by
  obtain ⟨path, message, rfl⟩ := h finding hmem
  rfl

theorem LocatedAt.located {path : Path} {findings : List Finding} (h : LocatedAt path findings) : Located findings := by
  intro finding hmem
  obtain ⟨text, message, -, rfl⟩ := h finding hmem
  exact ⟨text, message, rfl⟩

section Combinators

variable {path : Path}

theorem locatedAt_nil : LocatedAt path [] :=
  fun _ h => absurd h List.not_mem_nil

theorem locatedAt_schema (path : Path) (message : String) : LocatedAt path [.schema path.text message] := by
  intro finding h
  exact ⟨path.text, message, Or.inl rfl, List.mem_singleton.1 h⟩

theorem LocatedAt.append {as bs : List Finding} (ha : LocatedAt path as) (hb : LocatedAt path bs) :
    LocatedAt path (as ++ bs) :=
  List.forall_mem_append.2 ⟨ha, hb⟩

theorem LocatedAt.of_below {below : Path} {rest : String} (hbelow : below.text = path.text ++ "." ++ rest)
    {findings : List Finding} (h : LocatedAt below findings) : LocatedAt path findings := by
  intro finding hmem
  obtain ⟨text, message, htext, rfl⟩ := h finding hmem
  exact ⟨text, message, htext.of_below hbelow, rfl⟩

theorem LocatedAt.of_field {name : String} {findings : List Finding} (h : LocatedAt (path.field name) findings) :
    LocatedAt path findings :=
  h.of_below (path.text_field name)

theorem locatedAt_conformance {α : Type} (schema : Schema α) (path : Path) (v : Value) :
    LocatedAt path (conformance schema path v) := by
  unfold conformance
  split
  · exact locatedAt_nil
  · rename_i mismatch _
    simp only [mismatchFinding]
    cases blamedField v mismatch.message with
    | none => exact locatedAt_schema path _
    | some field => exact (locatedAt_schema (path.field field) _).of_field

theorem locatedAt_partsFirst {parts whole : List Finding} (hparts : LocatedAt path parts)
    (hwhole : LocatedAt path whole) : LocatedAt path (partsFirst parts whole) := by
  unfold partsFirst
  split
  · exact hwhole
  · exact hparts

theorem locatedAt_elements {name : String} {v : Value} {check : Path → Value → List Finding}
    (h : ∀ path v, LocatedAt path (check path v)) : LocatedAt path (elements (path.field name) v check) := by
  unfold elements
  split
  · refine forall_mem_flatten_mapIdx.2 fun i hi => ?_
    have hbelow : ((path.field name).index i).text = path.text ++ "." ++ (name ++ s!"[{i}]") := by
      rw [Path.text_index, Path.text_field, String.append_assoc]
    exact (h _ _).of_below hbelow
  · exact (locatedAt_schema (path.field name) _).of_field

theorem locatedAt_mapping {v : Value} {check : List (String × Value) → List Finding}
    (h : ∀ fields, LocatedAt path (check fields)) : LocatedAt path (mapping path v check) := by
  unfold mapping
  split
  · exact h _
  · exact locatedAt_schema path _

section Fields

variable {fields : List (String × Value)} {name : String} {check : Value → List Finding}

theorem locatedAt_present (h : ∀ v, LocatedAt path (check v)) : LocatedAt path (present fields name check) := by
  unfold present
  split
  · exact h _
  · exact locatedAt_nil

theorem locatedAt_given (h : ∀ v, LocatedAt path (check v)) : LocatedAt path (given fields name check) := by
  refine locatedAt_present fun v => ?_
  split
  · exact locatedAt_nil
  · exact h v

theorem locatedAt_demanded (h : ∀ v, LocatedAt (.mk name []) (check v)) :
    LocatedAt (.mk name []) (demanded fields name check) := by
  unfold demanded
  split
  · exact h _
  · have htext : (Path.mk name []).text = name := by simp [Path.text]
    have h := locatedAt_schema (.mk name []) s!"missing field `{name}`"
    rwa [htext] at h

end Fields

/-- An optional part below the path. -/
theorem locatedAt_given_conformance {α : Type} {fields : List (String × Value)} {name : String} {schema : Schema α} :
    LocatedAt path (given fields name (conformance schema (path.field name))) :=
  locatedAt_given fun v => (locatedAt_conformance schema (path.field name) v).of_field

/-- A list of parts below the path. -/
theorem locatedAt_present_elements {α : Type} {fields : List (String × Value)} {name : String} {schema : Schema α} :
    LocatedAt path (present fields name (elements (path.field name) · (conformance schema))) :=
  locatedAt_present fun _ => locatedAt_elements (locatedAt_conformance schema)

end Combinators

/-! ### The parts of a document -/

theorem locatedAt_metadata (v : Value) : LocatedAt (.mk "metadata" []) (metadata v) :=
  locatedAt_mapping fun _ => locatedAt_partsFirst
    ((locatedAt_present_elements.append locatedAt_given_conformance).append locatedAt_given_conformance)
    (locatedAt_conformance _ _ _)

theorem locatedAt_trigger (path : Path) (v : Value) : LocatedAt path (trigger path v) :=
  locatedAt_partsFirst (locatedAt_given_conformance.append locatedAt_given_conformance) (locatedAt_conformance _ _ _)

theorem locatedAt_stepKind (path : Path) (v : Value) : LocatedAt path (stepKind path v) :=
  locatedAt_partsFirst locatedAt_present_elements (locatedAt_conformance _ _ _)

theorem locatedAt_step (path : Path) (v : Value) : LocatedAt path (step path v) := by
  refine locatedAt_mapping fun fields => locatedAt_partsFirst ?_ (locatedAt_conformance _ _ _)
  have hkind : LocatedAt path (present fields "step" (stepKind (path.field "step"))) :=
    locatedAt_present fun v => (locatedAt_stepKind _ v).of_field
  exact (hkind.append locatedAt_given_conformance).append locatedAt_present_elements

theorem locatedAt_observability (v : Value) : LocatedAt (.mk "observability" []) (observability v) :=
  locatedAt_mapping fun _ => locatedAt_partsFirst locatedAt_given_conformance (locatedAt_conformance _ _ _)

/-! ### The pieces of a document -/

/-- A part of a document that is checked on its own, or a list of such parts that is none. -/
inductive Place where
  | metadata
  | triggers
  | trigger (i : Nat)
  | steps
  | step (i : Nat)
  | observability
  deriving DecidableEq

namespace Place

def path : Place → Path
  | metadata => .mk "metadata" []
  | triggers => .mk "triggers" []
  | trigger i => (Path.mk "triggers" []).index i
  | steps => .mk "steps" []
  | step i => (Path.mk "steps" []).index i
  | observability => .mk "observability" []

/-- The section of the document, by its turn. -/
def turn : Place → Nat
  | metadata => 0
  | triggers => 1
  | trigger _ => 1
  | steps => 2
  | step _ => 2
  | observability => 3

/-- The position in the section. -/
def position : Place → Nat
  | trigger i => i
  | step i => i
  | _ => 0

/-- Document order: by sections, and by position in a section. -/
def Before (p q : Place) : Prop :=
  p.turn < q.turn ∨ p.turn = q.turn ∧ p.position < q.position

end Place

/-- The findings on the elements of a list, each with its place, or on a tree that is none. -/
def elementPieces (list : Place) (element : Nat → Place) (v : Value) (check : Path → Value → List Finding) :
    List (Place × List Finding) :=
  match v with
  | .list items => items.mapIdx fun i item => (element i, check (element i).path item)
  | v => [(list, elements list.path v check)]

/-- The findings on the section of triggers. -/
def triggerPieces (fields : List (String × Value)) : List (Place × List Finding) :=
  match fields.lookup "triggers" with
  | some v => elementPieces .triggers .trigger v trigger
  | none => []

/-- The findings on the section of steps. -/
def stepPieces (fields : List (String × Value)) : List (Place × List Finding) :=
  match fields.lookup "steps" with
  | some v => elementPieces .steps .step v step
  | none => [(.steps, demanded fields "steps" (elements (.mk "steps" []) · step))]

/-- The findings on a document by the parts that they are about. -/
def pieces (fields : List (String × Value)) : List (Place × List Finding) :=
  (.metadata, demanded fields "metadata" metadata) :: (triggerPieces fields ++ stepPieces fields ++
    [(.observability, given fields "observability" observability)])

theorem flatMap_elementPieces (list : Place) (element : Nat → Place)
    (hpath : ∀ i, (element i).path = list.path.index i) (v : Value) (check : Path → Value → List Finding) :
    (elementPieces list element v check).flatMap Prod.snd = elements list.path v check := by
  cases v with
  | list items =>
    simp only [elementPieces, elements, List.flatMap, List.mapIdx_eq_zipIdx_map, List.map_map, hpath]
    rfl
  | _ => simp [elementPieces]

theorem flatMap_triggerPieces (fields : List (String × Value)) :
    (triggerPieces fields).flatMap Prod.snd = present fields "triggers" (elements (.mk "triggers" []) · trigger) := by
  unfold triggerPieces present
  cases fields.lookup "triggers" with
  | some v => exact flatMap_elementPieces .triggers .trigger (fun _ => rfl) v trigger
  | none => rfl

theorem flatMap_stepPieces (fields : List (String × Value)) :
    (stepPieces fields).flatMap Prod.snd = demanded fields "steps" (elements (.mk "steps" []) · step) := by
  unfold stepPieces
  cases hlookup : fields.lookup "steps" with
  | some v =>
    rw [demanded, hlookup]
    exact flatMap_elementPieces .steps .step (fun _ => rfl) v step
  | none => rw [List.flatMap_singleton]

/-- The pieces of a document make up its parts. -/
theorem parts_eq_flatMap_pieces (fields : List (String × Value)) : parts fields = (pieces fields).flatMap Prod.snd := by
  simp only [parts, pieces, List.flatMap_cons, List.flatMap_append, flatMap_triggerPieces, flatMap_stepPieces,
    List.flatMap_nil, List.append_nil, List.append_assoc]

theorem locatedAt_elementPieces {list : Place} {element : Nat → Place} {check : Path → Value → List Finding}
    (h : ∀ path v, LocatedAt path (check path v)) (v : Value) :
    ∀ piece ∈ elementPieces list element v check, LocatedAt piece.1.path piece.2 := by
  intro piece hpiece
  unfold elementPieces at hpiece
  split at hpiece
  · obtain ⟨i, hi, rfl⟩ := List.mem_mapIdx.1 hpiece
    exact h _ _
  · rename_i hlist
    obtain rfl := List.mem_singleton.1 hpiece
    unfold elements
    split
    · exact absurd rfl (hlist _)
    · exact locatedAt_schema list.path _

/-- The findings of a piece are about its place. -/
theorem locatedAt_pieces (fields : List (String × Value)) :
    ∀ piece ∈ pieces fields, LocatedAt piece.1.path piece.2 := by
  have htriggers : ∀ piece ∈ triggerPieces fields, LocatedAt piece.1.path piece.2 := by
    unfold triggerPieces
    split
    · exact locatedAt_elementPieces locatedAt_trigger _
    · exact fun _ h => absurd h List.not_mem_nil
  have hsteps : ∀ piece ∈ stepPieces fields, LocatedAt piece.1.path piece.2 := by
    unfold stepPieces
    split
    · exact locatedAt_elementPieces locatedAt_step _
    · rename_i hnone
      refine List.forall_mem_singleton.2 ?_
      simp only [demanded, hnone]
      exact locatedAt_schema (.mk "steps" []) _
  simp only [pieces, List.forall_mem_cons, List.forall_mem_append]
  exact ⟨locatedAt_demanded locatedAt_metadata, ⟨htriggers, hsteps⟩, locatedAt_given locatedAt_observability,
    fun _ h => absurd h List.not_mem_nil⟩

theorem located_parts (fields : List (String × Value)) : Located (parts fields) := by
  rw [parts_eq_flatMap_pieces]
  intro finding h
  obtain ⟨piece, hpiece, hmem⟩ := List.mem_flatMap.1 h
  exact (locatedAt_pieces fields piece hpiece).located finding hmem

theorem locatedAt_shape (flow : Flow) : LocatedAt Place.steps.path (shape flow) := by
  unfold shape
  split
  · exact locatedAt_schema Place.steps.path _
  · exact locatedAt_nil

end Structure

end FlowCheck
