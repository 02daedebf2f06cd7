import FlowCheck.Proofs.Grammar.Conformance

/-!
# Parts of written structures

A structure has a value for each of its fields (`Record.Has`), and a tagged value is one member of its family
(`Variants.Member`).  What is found under the name of a field in a written structure is what the field writes
for its value (`Record.lookup_of_has`), and the shape of the structure has the shape of the field under the same
name (`Record.lookup_shapes_of_has`).  The tag of a tagged value picks the shape of the member
(`Variants.Member.find?_shapes`).
-/

namespace FlowCheck

variable {α β ρ σ : Type}

/-! ### Fields of structures -/

/-- The row has the value for the field. -/
inductive Fields.Has : {ρ : Type} → Fields ρ → ρ → {α : Type} → Field α → α → Prop
  | here {α ρ : Type} {field : Field α} {rest : Fields ρ} {a : α} {row : ρ} : Has (.cons field rest) (a, row) field a
  | there {α β ρ : Type} {field : Field α} {other : Field β} {rest : Fields ρ} {a : α} {b : β} {row : ρ}
      (h : rest.Has row field a) : Has (.cons other rest) (b, row) field a

/-- The structure has the value for the field. -/
def Record.Has : {α : Type} → Record α → α → {β : Type} → Field β → β → Prop
  | _, .of _ fields _ parts _ _, a, _, field, b => fields.Has (parts a) field b

/-- What a field writes for a value, if anything. -/
def Field.written? : {α : Type} → Field α → α → Option Value
  | _, .required _ schema, a => some (schema.encode a)
  | _, .optional _ schema, a => a.map schema.encode
  | _, .defaulted _ schema _ omitted _, a => if omitted a then none else some (schema.encode a)

theorem Field.encodeEntry_eq (field : Field α) (a : α) :
    field.encodeEntry a = (field.written? a).toList.map fun v => (field.name, v) := by
  cases field with
  | required name schema => rfl
  | optional name schema => cases a <;> rfl
  | defaulted name schema default omitted h =>
    simp only [Field.encodeEntry, Field.written?]
    split <;> rfl

theorem Fields.Has.name_mem {fields : Fields ρ} {row : ρ} {field : Field α} {a : α} (h : fields.Has row field a) :
    field.name ∈ fields.names := by
  induction h with
  | here => exact List.mem_cons_self
  | there _ ih => exact List.mem_cons_of_mem _ ih

theorem Fields.lookup_of_has {fields : Fields ρ} {row : ρ} {field : Field α} {a : α} (hnodup : fields.names.Nodup)
    (h : fields.Has row field a) : (fields.encodeEntries row).lookup field.name = field.written? a := by
  induction h with
  | @here α ρ field rest a row =>
    have hrest : (rest.encodeEntries row).lookup field.name = none :=
      Entries.lookup_eq_none fun hmem =>
        (List.nodup_cons.1 hnodup).1 ((Fields.keys_encodeEntries_sublist rest row).subset hmem)
    rw [Fields.encodeEntries, Field.encodeEntry_eq]
    cases field.written? a with
    | none => exact hrest
    | some v => exact List.lookup_cons_self
  | @there α β ρ field other rest a b row h ih =>
    have hne : field.name ≠ other.name := fun heq => (List.nodup_cons.1 hnodup).1 (heq ▸ h.name_mem)
    rw [Fields.encodeEntries, Field.encodeEntry_eq]
    cases other.written? b with
    | none => exact ih (List.nodup_cons.1 hnodup).2
    | some v =>
      rw [Option.toList_some, List.map_singleton, List.singleton_append, List.lookup_cons, beq_false_of_ne hne]
      exact ih (List.nodup_cons.1 hnodup).2

theorem Fields.lookup_shapes_of_has {fields : Fields ρ} {row : ρ} {field : Field α} {a : α}
    (hnodup : fields.names.Nodup) (h : fields.Has row field a) :
    fields.shapes.lookup field.name = some (field.presence, field.shape) := by
  induction h with
  | here => exact List.lookup_cons_self
  | @there α β ρ field other rest a b row h ih =>
    have hne : field.name ≠ other.name := fun heq => (List.nodup_cons.1 hnodup).1 (heq ▸ h.name_mem)
    rw [Fields.shapes, List.lookup_cons, beq_false_of_ne hne]
    exact ih (List.nodup_cons.1 hnodup).2

theorem Fields.Has.lawful {fields : Fields ρ} {row : ρ} {field : Field α} {a : α} (h : fields.Has row field a)
    (hlawful : fields.Lawful) : field.Lawful := by
  induction h with
  | here => exact hlawful.1
  | there _ ih => exact ih hlawful.2

section Record

variable {record : Record α} {a : α} {field : Field β} {b : β}

theorem Record.Has.name_mem (h : record.Has a field b) : field.name ∈ record.names := by
  obtain ⟨name, fields, build, parts, build_parts, parts_build⟩ := record
  exact Fields.Has.name_mem h

/-- Under the name of a field stands what the field writes. -/
theorem Record.lookup_of_has (hlawful : record.Lawful) (h : record.Has a field b) :
    (record.encodeEntries a).lookup field.name = field.written? b := by
  obtain ⟨name, fields, build, parts, build_parts, parts_build⟩ := record
  exact Fields.lookup_of_has hlawful.1 h

theorem Record.lookup_shapes_of_has (hlawful : record.Lawful) (h : record.Has a field b) :
    record.shapes.lookup field.name = some (field.presence, field.shape) := by
  obtain ⟨name, fields, build, parts, build_parts, parts_build⟩ := record
  exact Fields.lookup_shapes_of_has hlawful.1 h

theorem Record.Has.lawful (h : record.Has a field b) (hlawful : record.Lawful) : field.Lawful := by
  obtain ⟨name, fields, build, parts, build_parts, parts_build⟩ := record
  exact Fields.Has.lawful h hlawful.2

end Record

/-! ### Fields that are there unless they are optional -/

/-- The field is written for every value, unless it is optional. -/
@[simp] def Field.Settled : {α : Type} → Field α → Prop
  | _, .defaulted _ _ _ omitted _ => ∀ a, omitted a = false
  | _, _ => True

/-- There is a settled field of the name. -/
@[simp] def Fields.Offers : {ρ : Type} → Fields ρ → String → Prop
  | _, .nil, _ => False
  | _, .cons field rest, name => field.name = name ∧ field.Settled ∨ rest.Offers name

@[simp] def Record.Offers : {α : Type} → Record α → String → Prop
  | _, .of _ fields _ _ _ _, name => fields.Offers name

theorem Field.Settled.presence_eq {field : Field α} (h : field.Settled) {a : α} (ha : field.written? a = none) :
    field.presence = .optional := by
  cases field with
  | required name schema => cases ha
  | optional name schema => rfl
  | defaulted name schema default omitted hdefault =>
    rw [Field.written?, h a] at ha
    cases ha

theorem Fields.exists_has : {ρ : Type} → {fields : Fields ρ} → {name : String} → fields.Offers name → (row : ρ) →
    ∃ (α : Type) (field : Field α) (a : α), fields.Has row field a ∧ field.name = name ∧ field.Settled
  | _, .cons field rest, name, h, (a, row) => by
    rcases h with hfield | hrest
    · exact ⟨_, field, a, .here, hfield⟩
    · obtain ⟨β, other, b, hhas, hname⟩ := Fields.exists_has hrest row
      exact ⟨β, other, b, .there hhas, hname⟩

theorem Record.exists_has {record : Record α} {name : String} (h : record.Offers name) (a : α) :
    ∃ (β : Type) (field : Field β) (b : β), record.Has a field b ∧ field.name = name ∧ field.Settled := by
  obtain ⟨_, fields, build, parts, build_parts, parts_build⟩ := record
  exact Fields.exists_has h (parts a)

/-! ### Members of families -/

/-- The value is that of the member with the record. -/
inductive Variants.Member : {σ : Type} → Variants σ → σ → {α : Type} → Record α → α → Prop
  | here {α σ : Type} {tag : String} {aliases : List String} {record : Record α} {rest : Variants σ} {a : α} :
      Member (.cons tag aliases record rest) (.inl a) record a
  | there {α β σ : Type} {tag : String} {aliases : List String} {record : Record α} {other : Record β}
      {rest : Variants σ} {s : σ} {a : α} (h : rest.Member s record a) :
      Member (.cons tag aliases other rest) (.inr s) record a

section Member

variable {variants : Variants σ} {s : σ} {record : Record α} {a : α}

theorem Variants.Member.lawful (h : variants.Member s record a) (hlawful : variants.Lawful) :
    record.Lawful ∧ tagField ∉ record.names := by
  induction h with
  | here => exact ⟨hlawful.1, hlawful.2.1⟩
  | there _ ih => exact ih hlawful.2.2.2

theorem Variants.Member.encodeEntries_eq (h : variants.Member s record a) :
    variants.encodeEntries s = (tagField, .string (variants.tagOf s)) :: record.encodeEntries a := by
  induction h with
  | here => rfl
  | there _ ih => exact ih

/-- The tag picks the shape of the member. -/
theorem Variants.Member.find?_shapes (h : variants.Member s record a) (hlawful : variants.Lawful) :
    variants.shapes.find? (variants.tagOf s) = some record.shapes := by
  induction h with
  | here => rw [Variants.find?_shapes, Variants.tagOf, if_pos (Or.inl rfl)]
  | @there α β σ tag aliases record other rest s a h ih =>
    have hother := hlawful.2.2.1 (rest.tagOf s) (Variants.tagOf_mem_written rest s)
    rw [Variants.find?_shapes, Variants.tagOf, if_neg hother]
    exact ih hlawful.2.2.2

end Member

end FlowCheck
