import FlowCheck.Path
import FlowCheck.Proofs.Schema.Parts
import FlowCheck.Proofs.WrittenFlows

/-!
# Paths in written flows

A path is followed segment by segment: a name leads to what stands under it in a mapping, an index to an element
of a list (`Value.follow`).  The grammar says which structure each mapping on the way is (`Site.walk`).  A path
points into a written flow (`Flow.Points`) if it leads to a node, or leaves the tree at a mapping in which the
next segment is an optional field that is absent; all indices of such a path lie within their lists
(`Flow.Points.index_lt`).

Where the values of a flow stand in its tree is followed along their types: a structure shows its fields
(`Site.Shows`), a tagged value the fields of its member, a list its elements.  So a path that names a field of a
structure points into the flow, whatever the value is, unless the field is one with a default that may be left out
(`Flow.Shows.points_field`).
-/

namespace FlowCheck

/-! ### Following paths -/

/-- What a segment leads to. -/
def Value.child? (v : Value) : Segment → Option Value
  | .field name => v.get? name
  | .index i => v.asList?.bind fun items => items[i]?

/-- What the segments lead to. -/
def Value.follow : List Segment → Value → Option Value
  | [], v => some v
  | segment :: rest, v => (v.child? segment).bind (follow rest)

/-- The segments of a path, from the document on. -/
def Path.trail (path : Path) : List Segment :=
  .field path.root :: path.segments

/-- The fields of the structure that a tree of a shape is; for a family, the tag says which. -/
def Shape.fieldsOf (v : Value) : Shape → FieldShapes
  | .mapping fields => fields
  | .family members => (((v.get? tagField).bind Value.asString?).bind (MemberShapes.find? members)).getD []
  | _ => []

/-- The names can follow each other as fields in trees of a shape. -/
def Shape.Nests : Shape → List String → Prop
  | _, [] => True
  | shape, name :: rest =>
    ∃ fields presence inner, shape = .mapping fields ∧ (name, presence, inner) ∈ fields ∧ inner.Nests rest

/-- A tree and its shape. -/
structure Site where
  shape : Shape
  tree : Value

namespace Site

/-- What a segment leads to, with its shape. -/
def child? (site : Site) : Segment → Option Site
  | .field name =>
    ((site.shape.fieldsOf site.tree).lookup name).bind fun field =>
      (site.tree.get? name).map fun v => ⟨field.2, v⟩
  | .index i =>
    match site with
    | ⟨.list element, .list items⟩ => items[i]?.map fun v => ⟨element, v⟩
    | _ => none

/-- What the segments lead to, with its shape. -/
def walk : List Segment → Site → Option Site
  | [], site => some site
  | segment :: rest, site => (site.child? segment).bind (walk rest)

theorem walk_append (before after : List Segment) (site : Site) :
    site.walk (before ++ after) = (site.walk before).bind (walk after) := by
  induction before generalizing site with
  | nil => rfl
  | cons segment before ih =>
    rw [List.cons_append, walk, walk]
    cases site.child? segment with
    | none => rfl
    | some child => exact ih child

theorem child?_tree {site child : Site} {segment : Segment} (h : site.child? segment = some child) :
    site.tree.child? segment = some child.tree := by
  cases segment with
  | field name =>
    obtain ⟨field, -, hchild⟩ := Option.bind_eq_some_iff.1 h
    obtain ⟨v, hv, rfl⟩ := Option.map_eq_some_iff.1 hchild
    exact hv
  | index i =>
    obtain ⟨shape, tree⟩ := site
    simp only [child?] at h
    split at h
    · rename_i items hsite
      cases hsite
      obtain ⟨v, hv, rfl⟩ := Option.map_eq_some_iff.1 h
      exact hv
    · cases h

/-- A walk along the grammar follows the tree. -/
theorem follow_of_walk {site last : Site} {segments : List Segment} (h : site.walk segments = some last) :
    site.tree.follow segments = some last.tree := by
  induction segments generalizing site with
  | nil =>
    cases h
    rfl
  | cons segment rest ih =>
    obtain ⟨child, hchild, hrest⟩ := Option.bind_eq_some_iff.1 h
    rw [Value.follow, child?_tree hchild]
    exact ih hrest

end Site

theorem Value.follow_append (before after : List Segment) (v : Value) :
    v.follow (before ++ after) = (v.follow before).bind (Value.follow after) := by
  induction before generalizing v with
  | nil => rfl
  | cons segment before ih =>
    rw [List.cons_append, follow, follow]
    cases v.child? segment with
    | none => rfl
    | some child => exact ih child

/-- An index on the way lies within its list. -/
theorem Value.index_lt_of_follow {v last : Value} {before rest : List Segment} {i : Nat}
    (h : v.follow (before ++ .index i :: rest) = some last) :
    ∃ items, v.follow before = some (.list items) ∧ i < items.length := by
  rw [follow_append] at h
  obtain ⟨w, hw, hrest⟩ := Option.bind_eq_some_iff.1 h
  obtain ⟨child, hchild, -⟩ := Option.bind_eq_some_iff.1 hrest
  cases w with
  | list items =>
    obtain ⟨hi, -⟩ := List.getElem?_eq_some_iff.1 hchild
    exact ⟨items, hw, hi⟩
  | _ => cases hchild

/-! ### Pointing into a flow -/

namespace Flow

/-- The document that a flow is written as, with its shape. -/
def root (flow : Flow) : Site :=
  ⟨Grammar.flow, flow.written⟩

/-- The segments lead to a node of the written flow, or to a mapping and there to an optional field that is absent,
with fields that its shape knows behind it. -/
inductive Points (flow : Flow) : List Segment → Prop
  | node {segments : List Segment} {v : Value} (h : flow.written.follow segments = some v) : Points flow segments
  | absent {before : List Segment} {name : String} {rest : List String} {site : Site} {shape : Shape}
      (hsite : flow.root.walk before = some site) (hmapping : site.tree.IsMapping)
      (hfield : (site.shape.fieldsOf site.tree).lookup name = some (.optional, shape))
      (habsent : site.tree.get? name = none) (hrest : shape.Nests rest) :
      Points flow (before ++ .field name :: rest.map .field)

theorem Points.index_lt {flow : Flow} {segments : List Segment} (h : flow.Points segments) {before rest : List Segment}
    {i : Nat} (hindex : segments = before ++ .index i :: rest) :
    ∃ items, flow.written.follow before = some (.list items) ∧ i < items.length := by
  cases h with
  | node h =>
    rw [hindex] at h
    exact Value.index_lt_of_follow h
  | @absent front name names site shape hsite hmapping hfield habsent hrest =>
    -- the absent field and what is behind it are names, so the index is before it
    have hfront : ∃ middle, front = before ++ .index i :: middle := by
      rcases List.append_eq_append_iff.1 hindex with ⟨middle, -, hnames⟩ | ⟨middle, rfl, hsegments⟩
      · have hmem : Segment.index i ∈ Segment.field name :: names.map Segment.field :=
          hnames ▸ List.mem_append_right _ List.mem_cons_self
        simp at hmem
      · cases middle with
        | nil => cases hsegments
        | cons segment middle =>
          cases hsegments
          exact ⟨middle, rfl⟩
    obtain ⟨middle, rfl⟩ := hfront
    exact Value.index_lt_of_follow (Site.follow_of_walk hsite)

end Flow

/-! ### Where values stand -/

/-- The node that a value is written as. -/
def Site.of {α : Type} (schema : Schema α) (a : α) : Site :=
  ⟨schema.shape, (schema.encode a).sortKeys⟩

/-- The node is a mapping with the fields of a structure, and what they write for its values. -/
structure Site.Shows {α : Type} (site : Site) (record : Record α) (a : α) : Prop where
  lawful : record.Lawful
  isMapping : site.tree.IsMapping
  fieldsOf : site.shape.fieldsOf site.tree = record.shapes
  get? : ∀ name ∈ record.names, site.tree.get? name = ((record.encodeEntries a).lookup name).map Value.sortKeys

section Sites

variable {α β σ : Type}

theorem Site.shows_record {record : Record α} (hlawful : record.Lawful) (a : α) :
    (Site.of (.record record) a).Shows record a := by
  have htree : (Site.of (.record record) a).tree = .object (Value.orderedFields (record.encodeEntries a)) :=
    Value.sortKeys_object _
  refine ⟨hlawful, ⟨_, htree⟩, rfl, fun name _ => ?_⟩
  rw [htree]
  exact Record.lookup_orderedFields hlawful a name

theorem Site.shows_member {name : String} {variants : Variants σ} {build : σ → α} {parts : α → σ}
    {build_parts : ∀ a, build (parts a) = a} {parts_build : ∀ s, parts (build s) = s} {a : α} {record : Record β}
    {b : β}
    (hlawful : variants.Lawful) (h : variants.Member (parts a) record b) :
    (Site.of (.tagged name variants build parts build_parts parts_build) a).Shows record b := by
  obtain ⟨hrecord, htag⟩ := h.lawful hlawful
  have htree : (Site.of (.tagged name variants build parts build_parts parts_build) a).tree =
      .object (Value.orderedFields (variants.encodeEntries (parts a))) := Value.sortKeys_object _
  refine ⟨hrecord, ⟨_, htree⟩, ?_, fun field hfield => ?_⟩
  · have hlookup := Variants.lookup_tagField hlawful (parts a)
    rw [htree]
    simp only [Site.of, Schema.shape, Shape.fieldsOf, Value.get?, hlookup, Option.bind_some, Value.asString?,
      h.find?_shapes hlawful, Option.getD_some]
  · obtain ⟨-, -, hkeys⟩ := Variants.encodeEntries_eq_cons variants hlawful (parts a)
    have hne : field ≠ tagField := fun heq => htag (heq ▸ hfield)
    rw [htree, Value.get?, Value.lookup_orderedFields hkeys, h.encodeEntries_eq, List.lookup_cons, beq_false_of_ne hne]

/-- Under the name of a field stands what the field writes. -/
theorem Site.Shows.child?_eq {site : Site} {record : Record α} {a : α} {field : Field β} {b : β}
    (h : site.Shows record a) (hhas : record.Has a field b) :
    site.child? (.field field.name) = (field.written? b).map fun v => ⟨field.shape, v.sortKeys⟩ := by
  have hget := h.get? field.name hhas.name_mem
  rw [Record.lookup_of_has h.lawful hhas] at hget
  rw [Site.child?, h.fieldsOf, Record.lookup_shapes_of_has h.lawful hhas, Option.bind_some, hget, Option.map_map]
  rfl

end Sites

namespace Flow

variable {α β σ : Type} {flow : Flow} {segments : List Segment}

/-- The segments lead to the node that the value is written as. -/
def Holds (flow : Flow) (segments : List Segment) (schema : Schema α) (a : α) : Prop :=
  schema.Lawful ∧ flow.root.walk segments = some (Site.of schema a)

/-- The segments lead to a mapping that shows the fields of the structure. -/
def Shows (flow : Flow) (segments : List Segment) (record : Record α) (a : α) : Prop :=
  ∃ site, flow.root.walk segments = some site ∧ site.Shows record a

theorem shows_root (flow : Flow) : flow.Shows [] Flow.record flow :=
  ⟨_, rfl, Site.shows_record Flow.lawful_record flow⟩

theorem Holds.points {schema : Schema α} {a : α} (h : flow.Holds segments schema a) : flow.Points segments :=
  .node (Site.follow_of_walk h.2)

theorem Shows.points {record : Record α} {a : α} (h : flow.Shows segments record a) : flow.Points segments := by
  obtain ⟨site, hsite, -⟩ := h
  exact .node (Site.follow_of_walk hsite)

theorem Holds.shows {record : Record α} {a : α} (h : flow.Holds segments (.record record) a) :
    flow.Shows segments record a :=
  ⟨_, h.2, Site.shows_record h.1 a⟩

theorem Holds.shows_member {name : String} {variants : Variants σ} {build : σ → α} {parts : α → σ}
    {build_parts : ∀ a, build (parts a) = a} {parts_build : ∀ s, parts (build s) = s} {a : α} {record : Record β}
    {b : β}
    (h : flow.Holds segments (.tagged name variants build parts build_parts parts_build) a)
    (hmember : variants.Member (parts a) record b) : flow.Shows segments record b :=
  ⟨_, h.2, Site.shows_member h.1 hmember⟩

theorem Holds.element {schema : Schema α} {as : List α} (h : flow.Holds segments (.list schema) as) (i : Nat)
    (hi : i < as.length) : flow.Holds (segments ++ [.index i]) schema as[i] := by
  refine ⟨h.1, ?_⟩
  rw [Site.walk_append, h.2, Option.bind_some, Site.walk]
  simp only [Site.of, Schema.shape, Schema.encode, Value.sortKeys_list, Site.child?, List.map_map,
    List.getElem?_map, List.getElem?_eq_getElem hi, Option.map_some, Option.bind_some, Site.walk]
  rfl

section Fields

variable {record : Record α} {a : α} {name : String} {schema : Schema β} {b : β}

/-- Below a structure, the name of a field leads to what the field writes. -/
theorem walk_field {site : Site} {field : Field β} (hsite : flow.root.walk segments = some site)
    (h : site.Shows record a) (hhas : record.Has a field b) :
    flow.root.walk (segments ++ [.field field.name]) =
      (field.written? b).map fun v => ⟨field.shape, v.sortKeys⟩ := by
  rw [Site.walk_append, hsite, Option.bind_some, Site.walk, h.child?_eq hhas]
  cases field.written? b <;> rfl

theorem Shows.required (h : flow.Shows segments record a) (hhas : record.Has a (.required name schema) b) :
    flow.Holds (segments ++ [.field name]) schema b := by
  obtain ⟨site, hsite, hshows⟩ := h
  exact ⟨hhas.lawful hshows.lawful, walk_field hsite hshows hhas⟩

theorem Shows.optional (h : flow.Shows segments record a) (hhas : record.Has a (.optional name schema) (some b)) :
    flow.Holds (segments ++ [.field name]) schema b := by
  obtain ⟨site, hsite, hshows⟩ := h
  exact ⟨hhas.lawful hshows.lawful, walk_field hsite hshows hhas⟩

theorem Shows.withDefault {default : β} (h : flow.Shows segments record a)
    (hhas : record.Has a (.withDefault name schema default) b) : flow.Holds (segments ++ [.field name]) schema b := by
  obtain ⟨site, hsite, hshows⟩ := h
  exact ⟨(hhas.lawful hshows.lawful).1, walk_field hsite hshows hhas⟩

/-- An optional field that is absent, with names behind it that its shape knows. -/
theorem Shows.points_absent {names : List String} (h : flow.Shows segments record a)
    (hhas : record.Has a (.optional name schema) none) (hnests : schema.shape.Nests names) :
    flow.Points (segments ++ .field name :: names.map .field) := by
  obtain ⟨site, hsite, hshows⟩ := h
  have hget := hshows.get? name hhas.name_mem
  have hshape := Record.lookup_shapes_of_has hshows.lawful hhas
  have hlookup : (record.encodeEntries a).lookup name = none := Record.lookup_of_has hshows.lawful hhas
  rw [hlookup] at hget
  rw [← hshows.fieldsOf] at hshape
  exact .absent hsite hshows.isMapping hshape hget hnests

/-- The name of a settled field points into the flow: the field is there, or it is optional. -/
theorem Shows.points_field (h : flow.Shows segments record a) (hoffers : record.Offers name) :
    flow.Points (segments ++ [.field name]) := by
  obtain ⟨γ, field, c, hhas, rfl, hsettled⟩ := Record.exists_has hoffers a
  obtain ⟨site, hsite, hshows⟩ := h
  cases hwritten : field.written? c with
  | some v =>
    have hwalk := walk_field hsite hshows hhas
    rw [hwritten] at hwalk
    exact .node (Site.follow_of_walk hwalk)
  | none =>
    have hget := hshows.get? field.name hhas.name_mem
    have hshape := Record.lookup_shapes_of_has hshows.lawful hhas
    rw [Record.lookup_of_has hshows.lawful hhas, hwritten] at hget
    rw [← hshows.fieldsOf, hsettled.presence_eq hwritten] at hshape
    have hpoints : flow.Points (segments ++ .field field.name :: List.map Segment.field []) :=
      .absent hsite hshows.isMapping hshape hget trivial
    exact hpoints

end Fields

end Flow

end FlowCheck
