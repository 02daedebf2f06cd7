import FlowCheck.Proofs.FlowSchema
import FlowCheck.Proofs.Grammar.Documents

/-!
# Reading is conformance

Without its types, a schema is a shape (`Schema.shape`), and the schema of flows has the shape that the grammar
of flow documents says (`Flow.shape_record`).

What is read from a tree that is not odd conforms to the shape (`Schema.conforms_of_decode`), and a tree that
conforms is read, from the document as well as from a copy (`Schema.exists_decode_of_conforms`).  Both are
proved by recursion on the schema.  Two facts carry the members of families: the tag picks the same member in
the schema and in its shape (`Variants.find?_shapes`), and taking the tag out changes nothing for the fields of
the member, none of which has its name.
-/

namespace FlowCheck

variable {α ρ σ : Type} {route : Route}

/-! ### The shape of a schema -/

def Field.presence : {α : Type} → Field α → Presence
  | _, .required _ _ => .required
  | _, .optional _ _ => .optional
  | _, .defaulted _ _ _ _ _ => .defaulted

mutual

/-- What the trees that a schema reads look like. -/
def Schema.shape : {α : Type} → Schema α → Shape
  | _, .string => .text
  | _, .bool => .flag
  | _, .unsigned w => .natural w.bits
  | _, .number => .number
  | _, .date => .date
  | _, .texts => .texts
  | _, .free => .anything
  | _, .choice choices => .oneOf (choices.values.flatMap fun a => choices.name a :: choices.aliases a)
  | _, .list element => .list element.shape
  | _, .record record => .mapping record.shapes
  | _, .tagged _ variants _ _ _ _ => .family variants.shapes

def Record.shapes : {α : Type} → Record α → FieldShapes
  | _, .of _ fields _ _ _ _ => fields.shapes

def Field.shape : {α : Type} → Field α → Shape
  | _, .required _ schema => schema.shape
  | _, .optional _ schema => schema.shape
  | _, .defaulted _ schema _ _ _ => schema.shape

def Fields.shapes : {ρ : Type} → Fields ρ → FieldShapes
  | _, .nil => []
  | _, .cons field rest => (field.name, field.presence, field.shape) :: rest.shapes

def Variants.shapes : {σ : Type} → Variants σ → MemberShapes
  | _, .nil => []
  | _, .cons tag aliases record rest => (tag :: aliases, record.shapes) :: rest.shapes

end

/-- The schema of flows has the shape that the grammar says. -/
theorem Flow.shape_record : Shape.mapping Flow.record.shapes = Grammar.flow := rfl

theorem Fields.map_fst_shapes : {ρ : Type} → (fields : Fields ρ) → fields.shapes.map (·.1) = fields.names
  | _, .nil => rfl
  | _, .cons field rest => by rw [Fields.shapes, List.map_cons, Fields.map_fst_shapes rest, Fields.names]

theorem Record.map_fst_shapes : (record : Record α) → record.shapes.map (·.1) = record.names
  | .of _ fields _ _ _ _ => Fields.map_fst_shapes fields

theorem Variants.find?_shapes {name : String} {aliases : List String} {record : Record α} {rest : Variants σ}
    {tag : String} :
    (Variants.cons name aliases record rest).shapes.find? tag =
      if tag = name ∨ tag ∈ aliases then some record.shapes else rest.shapes.find? tag := by
  rw [Variants.shapes, MemberShapes.find?, List.find?_cons]
  by_cases h : tag = name ∨ tag ∈ aliases
  · simp [h]
  · simp [h, MemberShapes.find?]

/-! ### What is read conforms -/

theorem Width.size_eq (w : Width) : (w.size : Int) = 2 ^ w.bits := by
  cases w <;> rfl

theorem Width.exists_decode {w : Width} {v : Value} :
    (∃ n, w.decode v = .ok n) ↔ Conforms (.natural w.bits) v := by
  constructor
  · rintro ⟨n, h⟩
    cases v with
    | int m =>
      simp only [Width.decode, w.size_eq] at h
      split at h
      · rename_i hm
        exact .natural hm
      · cases h
    | _ => cases h
  · intro h
    cases h with
    | natural hn => exact ⟨_, by rw [Width.decode, w.size_eq, if_pos hn]⟩

theorem Choices.exists_ofName? {choices : Choices α} {name : String} :
    (∃ a, choices.ofName? name = some a) ↔
      name ∈ choices.values.flatMap fun a => choices.name a :: choices.aliases a := by
  rw [← Option.isSome_iff_exists, Choices.ofName?, List.find?_isSome, List.mem_flatMap]
  refine exists_congr fun a => and_congr_right fun _ => ?_
  rw [Bool.or_eq_true, beq_iff_eq, List.contains_iff_mem, List.mem_cons, eq_comm]

theorem Choices.read_eq_ok {choices : Choices α} {name : String} {a : α} :
    choices.read name = .ok a ↔ choices.ofName? name = some a := by
  unfold Choices.read
  cases choices.ofName? name <;> simp

theorem exists_decodeTexts {entries : List (String × Value)} :
    (∃ texts, decodeTexts entries = .ok texts) ↔ ∀ entry ∈ entries, ∃ s, entry.2 = .string s := by
  constructor
  · rintro ⟨texts, h⟩ entry hentry
    rw [decodeTexts_eq_ok.1 h] at hentry
    obtain ⟨text, -, rfl⟩ := List.mem_map.1 hentry
    exact ⟨text.2, rfl⟩
  · intro h
    induction entries with
    | nil => exact ⟨[], rfl⟩
    | cons entry entries ih =>
      obtain ⟨key, v⟩ := entry
      obtain ⟨⟨s, rfl⟩, hrest⟩ := List.forall_mem_cons.1 h
      obtain ⟨texts, htexts⟩ := ih hrest
      exact ⟨(key, s) :: texts, by rw [decodeTexts, htexts]; rfl⟩

mutual

/-- What is read from a tree conforms to the shape, unless the tree is odd. -/
theorem Schema.conforms_of_decode {route : Route} : {α : Type} → (schema : Schema α) → schema.Lawful → {v : Value} →
    {a : α} → ¬Odd schema.shape v → schema.decode route v = .ok a → Conforms schema.shape v
  | _, .string, _, v, _, _, h => by
    cases v with
    | string s => exact .text s
    | _ => cases h
  | _, .bool, _, v, _, _, h => by
    cases v with
    | bool b => exact .flag b
    | _ => cases h
  | _, .unsigned w, _, _, _, _, h => Width.exists_decode.1 ⟨_, h⟩
  | _, .number, _, v, _, _, h => by
    cases v with
    | int n => exact .integer n
    | float x => exact .float x
    | _ => cases h
  | _, .date, _, v, _, _, h => by
    cases v with
    | string s =>
      simp only [Schema.decode] at h
      cases hread : Instant.read s with
      | ok t => exact .date hread
      | error e =>
        rw [hread] at h
        cases h
    | _ => cases h
  | _, .texts, _, v, _, _, h => by
    cases v with
    | object entries => exact .texts (exists_decodeTexts.1 ⟨_, h⟩)
    | _ => cases h
  | _, .free, _, v, _, _, _ => .anything v
  | _, .choice choices, _, v, _, hodd, h => by
    cases v with
    | string name => exact .oneOf (Choices.exists_ofName?.1 ⟨_, Choices.read_eq_ok.1 h⟩)
    | object entries => exact absurd (.choiceAsMapping _ entries) hodd
    | _ => cases h
  | _, .list element, hl, _, _, hodd, h => by
    obtain ⟨items, rfl, hitems⟩ := Schema.decode_list_eq_ok.1 h
    refine .list fun item hitem => ?_
    obtain ⟨a, -, ha⟩ := exists_of_mem_left hitems hitem
    exact Schema.conforms_of_decode element hl (fun hitemOdd => hodd (.element hitem hitemOdd)) ha
  | _, .record record, hl, _, _, hodd, h => Record.conforms_of_decode record hl hodd h
  | _, .tagged _ variants _ _ _ _, hl, v, _, hodd, h => by
    obtain ⟨tag, content, ht, hmember⟩ := Schema.decode_tagged_eq_ok.1 h
    cases v with
    | object entries =>
      simp only [Value.tagged?, Option.map_eq_some_iff, Prod.mk.injEq] at ht
      obtain ⟨_, htag, rfl, rfl⟩ := ht
      obtain ⟨fields, hfields, hconforms⟩ := Variants.conforms_of_decode variants hl
        (fun fields hfields hmemberOdd => hodd (.member htag hfields hmemberOdd)) hmember
      exact .family htag hfields hconforms
    | list items => exact absurd (.familyAsList _ items) hodd
    | _ => cases ht

theorem Record.conforms_of_decode {route : Route} : {α : Type} → (record : Record α) → record.Lawful → {v : Value} →
    {a : α} → ¬Odd (.mapping record.shapes) v → record.decode route v = .ok a → Conforms (.mapping record.shapes) v
  | _, .of _ fields _ _ _ _, hl, v, _, hodd, h => by
    cases v with
    | object entries =>
      refine conforms_mapping.2 (Fields.admits_of_reads fields hl.2 ?_ (Record.decode_object_eq_ok.1 h))
      exact fun field hfield v hv hfieldOdd => hodd (odd_mapping.2 ⟨field, hfield, v, hv, hfieldOdd⟩)
    | list items => exact absurd (.mappingAsList _ items) hodd
    | _ => cases h

theorem Field.admits_of_read {route : Route} : {α : Type} → (field : Field α) → field.Lawful →
    {slot : Option Value} → {a : α} → (∀ v, slot = some v → ¬Odd field.shape v) → field.read route slot = .ok a →
    Admits field.presence field.shape slot
  | _, .required _ schema, hl, _, _, hodd, h => by
    obtain ⟨v, rfl, hdecode⟩ := Field.read_required_eq_ok.1 h
    refine ⟨fun _ => Option.some_ne_none v, ?_⟩
    rintro w hw -
    obtain rfl := Option.some.inj hw
    exact Schema.conforms_of_decode schema hl (hodd v rfl) hdecode
  | _, .optional _ schema, hl, slot, none, hodd, h => by
    refine ⟨nofun, ?_⟩
    rintro v rfl hnull
    rcases Field.read_optional_eq_ok_none.1 h with h | h
    · cases h
    · exact absurd ⟨Option.some.inj h, rfl⟩ hnull
  | _, .optional _ schema, hl, _, some a, hodd, h => by
    obtain ⟨v, rfl, -, hdecode⟩ := Field.read_optional_eq_ok_some.1 h
    refine ⟨nofun, ?_⟩
    rintro w hw -
    obtain rfl := Option.some.inj hw
    exact Schema.conforms_of_decode schema hl (hodd v rfl) hdecode
  | _, .defaulted _ schema _ _ _, hl, _, _, hodd, h => by
    refine ⟨nofun, ?_⟩
    rintro v rfl -
    rcases Field.read_defaulted_eq_ok.1 h with ⟨w, hw, hdecode⟩ | ⟨hnone, -⟩
    · obtain rfl := Option.some.inj hw
      exact Schema.conforms_of_decode schema hl.1 (hodd _ rfl) hdecode
    · cases hnone

theorem Fields.admits_of_reads {route : Route} : {ρ : Type} → (fields : Fields ρ) → fields.Lawful →
    {entries : List (String × Value)} → {row : ρ} →
    (∀ field ∈ fields.shapes, ∀ v, entries.lookup field.1 = some v → ¬Odd field.2.2 v) →
    fields.Reads route (fields.names.map fun name => entries.lookup name) row →
    ∀ field ∈ fields.shapes, Admits field.2.1 field.2.2 (entries.lookup field.1)
  | _, .nil, _, _, _, _, _ => fun _ h => absurd h List.not_mem_nil
  | _, .cons field rest, hl, entries, (_, _), hodd, h => by
    rw [Fields.shapes, List.forall_mem_cons] at hodd ⊢
    exact ⟨Field.admits_of_read field hl.1 hodd.1 h.1, Fields.admits_of_reads rest hl.2 hodd.2 h.2⟩

theorem Variants.conforms_of_decode : {σ : Type} → (variants : Variants σ) → variants.Lawful → {tag : String} →
    {entries : List (String × Value)} → {s : σ} →
    (∀ fields, variants.shapes.find? tag = some fields → ¬Odd (.mapping fields) (.object entries)) →
    variants.decode? tag (.object (entries.filter (·.1 != tagField))) = some (.ok s) →
    ∃ fields, variants.shapes.find? tag = some fields ∧ Conforms (.mapping fields) (.object entries)
  | _, .cons name aliases record rest, hl, tag, _, .inl a, hodd, h => by
    obtain ⟨hname, hdecode⟩ := Variants.decode?_inl_eq_ok.1 h
    have hfind : (Variants.cons name aliases record rest).shapes.find? tag = some record.shapes := by
      rw [Variants.find?_shapes, if_pos hname]
    have htag : tagField ∉ record.shapes.map (·.1) := by
      rw [record.map_fst_shapes]
      exact hl.2.1
    refine ⟨record.shapes, hfind, (conforms_filter_tag htag).1 ?_⟩
    exact Record.conforms_of_decode record hl.1 (fun h => hodd _ hfind ((odd_filter_tag htag).1 h)) hdecode
  | _, .cons name aliases record rest, hl, tag, _, .inr s, hodd, h => by
    obtain ⟨hname, hdecode⟩ := Variants.decode?_inr_eq_ok.1 h
    have hfind : (Variants.cons name aliases record rest).shapes.find? tag = rest.shapes.find? tag := by
      rw [Variants.find?_shapes, if_neg hname]
    rw [hfind] at hodd ⊢
    exact Variants.conforms_of_decode rest hl.2.2.2 hodd hdecode

end

/-! ### What conforms is read -/

mutual

/-- A tree that conforms to the shape is read. -/
theorem Schema.exists_decode_of_conforms {route : Route} : {α : Type} → (schema : Schema α) → schema.Lawful →
    {v : Value} → Conforms schema.shape v → ∃ a, schema.decode route v = .ok a
  | _, .string, _, _, h => by
    cases h with
    | text s => exact ⟨s, rfl⟩
  | _, .bool, _, _, h => by
    cases h with
    | flag b => exact ⟨b, rfl⟩
  | _, .unsigned _, _, _, h => Width.exists_decode.2 h
  | _, .number, _, _, h => by
    cases h with
    | integer n => exact ⟨_, rfl⟩
    | float x => exact ⟨x, rfl⟩
  | _, .date, _, _, h => by
    cases h with
    | date ht => exact ⟨_, by rw [Schema.decode, ht]; rfl⟩
  | _, .texts, _, _, h => by
    cases h with
    | texts h => exact exists_decodeTexts.2 h
  | _, .free, _, v, _ => ⟨v, rfl⟩
  | _, .choice _, _, _, h => by
    cases h with
    | oneOf h =>
      obtain ⟨a, ha⟩ := Choices.exists_ofName?.2 h
      exact ⟨a, Choices.read_eq_ok.2 ha⟩
  | _, .list element, hl, _, h => by
    cases h with
    | list h =>
      obtain ⟨as, has⟩ := exists_forall₂ fun item hitem => Schema.exists_decode_of_conforms element hl (h item hitem)
      exact ⟨as, Schema.decode_list_eq_ok.2 ⟨_, rfl, has⟩⟩
  | _, .record record, hl, _, h => Record.exists_decode_of_conforms record hl h
  | _, .tagged _ variants build _ _ parts_build, hl, _, h => by
    cases h with
    | family htag hmember h =>
      obtain ⟨s, hs⟩ := Variants.exists_decode_of_conforms variants hl hmember h
      refine ⟨build s, Schema.decode_tagged_eq_ok.2 ⟨_, _, ?_, by rw [parts_build]; exact hs⟩⟩
      rw [Value.tagged?, htag]
      rfl

theorem Record.exists_decode_of_conforms {route : Route} : {α : Type} → (record : Record α) → record.Lawful →
    {v : Value} → Conforms (.mapping record.shapes) v → ∃ a, record.decode route v = .ok a
  | _, .of _ fields build parts _ parts_build, hl, v, h => by
    cases v with
    | object entries =>
      obtain ⟨row, hrow⟩ := Fields.exists_reads_of_admits fields hl.2 (conforms_mapping.1 h)
      refine ⟨build row, Record.decode_object_eq_ok.2 ?_⟩
      rw [Record.Reads, parts_build]
      exact hrow
    | _ => cases h

theorem Field.exists_read_of_admits {route : Route} : {α : Type} → (field : Field α) → field.Lawful →
    {slot : Option Value} → Admits field.presence field.shape slot → ∃ a, field.read route slot = .ok a
  | _, .required _ schema, hl, slot, h => by
    obtain ⟨v, rfl⟩ := Option.ne_none_iff_exists'.1 (h.1 rfl)
    exact Schema.exists_decode_of_conforms schema hl (h.2 v rfl nofun)
  | _, .optional _ schema, hl, none, _ => ⟨none, rfl⟩
  | _, .optional _ schema, hl, some v, h => by
    by_cases hnull : v = .null
    · exact ⟨none, Field.read_optional_eq_ok_none.2 (.inr (congrArg some hnull))⟩
    · obtain ⟨a, ha⟩ := Schema.exists_decode_of_conforms schema hl (h.2 v rfl fun hv => hnull hv.1)
      exact ⟨some a, Field.read_optional_eq_ok_some.2 ⟨v, rfl, hnull, ha⟩⟩
  | _, .defaulted _ _ default _ _, _, none, _ => ⟨default, rfl⟩
  | _, .defaulted _ schema _ _ _, hl, some v, h => Schema.exists_decode_of_conforms schema hl.1 (h.2 v rfl nofun)

theorem Fields.exists_reads_of_admits {route : Route} : {ρ : Type} → (fields : Fields ρ) → fields.Lawful →
    {entries : List (String × Value)} →
    (∀ field ∈ fields.shapes, Admits field.2.1 field.2.2 (entries.lookup field.1)) →
    ∃ row, fields.Reads route (fields.names.map fun name => entries.lookup name) row
  | _, .nil, _, _, _ => ⟨(), rfl⟩
  | _, .cons field rest, hl, entries, h => by
    rw [Fields.shapes, List.forall_mem_cons] at h
    obtain ⟨a, ha⟩ := Field.exists_read_of_admits field hl.1 h.1
    obtain ⟨row, hrow⟩ := Fields.exists_reads_of_admits rest hl.2 h.2
    exact ⟨(a, row), ha, hrow⟩

theorem Variants.exists_decode_of_conforms : {σ : Type} → (variants : Variants σ) → variants.Lawful →
    {tag : String} → {fields : FieldShapes} → {entries : List (String × Value)} →
    variants.shapes.find? tag = some fields → Conforms (.mapping fields) (.object entries) →
    ∃ s, variants.decode? tag (.object (entries.filter (·.1 != tagField))) = some (.ok s)
  | _, .cons name aliases record rest, hl, tag, _, entries, hfind, h => by
    rw [Variants.find?_shapes] at hfind
    split at hfind
    · rename_i hname
      cases hfind
      have htag : tagField ∉ record.shapes.map (·.1) := by
        rw [record.map_fst_shapes]
        exact hl.2.1
      obtain ⟨a, ha⟩ := Record.exists_decode_of_conforms record hl.1 ((conforms_filter_tag htag).2 h)
      exact ⟨.inl a, Variants.decode?_inl_eq_ok.2 ⟨hname, ha⟩⟩
    · rename_i hname
      obtain ⟨s, hs⟩ := Variants.exists_decode_of_conforms rest hl.2.2.2 hfind h
      exact ⟨.inr s, Variants.decode?_inr_eq_ok.2 ⟨hname, hs⟩⟩

end

end FlowCheck
