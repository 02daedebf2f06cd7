import FlowCheck.Proofs.Schema.Slots

/-!
# Reading from a copy

What is read from a copy is read from the document as well, unless the name of a choice is given with an empty
mapping, which only a copy may do (`Choices.decode_direct`).  So it makes no difference for a schema without
choices (`Schema.decode_direct`); the members of a tagged family are read from copies in any case.
-/

namespace FlowCheck

variable {α ρ : Type}

mutual

/-- No part of a value is a choice, apart from the members of tagged families. -/
@[simp] def Schema.ChoiceFree : {α : Type} → Schema α → Prop
  | _, .choice _ => False
  | _, .list element => element.ChoiceFree
  | _, .record record => record.ChoiceFree
  | _, .string | _, .bool | _, .unsigned _ | _, .number | _, .date | _, .texts | _, .free
  | _, .tagged _ _ _ _ _ _ => True

@[simp] def Record.ChoiceFree : {α : Type} → Record α → Prop
  | _, .of _ fields _ _ _ _ => fields.ChoiceFree

@[simp] def Field.ChoiceFree : {α : Type} → Field α → Prop
  | _, .required _ schema | _, .optional _ schema | _, .defaulted _ schema _ _ _ => schema.ChoiceFree

@[simp] def Fields.ChoiceFree : {ρ : Type} → Fields ρ → Prop
  | _, .nil => True
  | _, .cons field rest => field.ChoiceFree ∧ rest.ChoiceFree

end

theorem Choices.decode_direct {choices : Choices α} {v : Value} {a : α} (h : choices.decode .buffered v = .ok a)
    (hv : ∀ name, v ≠ .object [(name, .object [])]) : choices.decode .direct v = .ok a := by
  unfold Choices.decode at h ⊢
  split at h
  · exact h
  · rename_i name value
    obtain ⟨b, hb, h⟩ := bind_eq_ok.1 h
    refine bind_eq_ok.2 ⟨b, hb, ?_⟩
    -- beside null, only the empty mapping is no content in a copy
    have hvalue : value ≠ .object [] := fun he => hv name (by rw [he])
    cases value <;> simp_all [Choices.isUnit, Value.isNull]
  · cases h
  · cases h

theorem Choices.ne_of_decode_direct {choices : Choices α} {v : Value} {a : α} (h : choices.decode .direct v = .ok a)
    (name : String) : v ≠ .object [(name, .object [])] := by
  rintro rfl
  obtain ⟨b, -, h⟩ := bind_eq_ok.1 h
  cases h

/-- Both routes find the same in the place of each field. -/
theorem Value.slots?_direct (names : List String) (v : Value) :
    v.slots? .direct names = v.slots? .buffered names := by
  cases v <;> simp [Value.slots?]

/-- A structure is read from the document if each of its fields is. -/
theorem Record.decode_direct_of_reads {record : Record α} {v : Value} {a : α}
    (h : record.decode .buffered v = .ok a)
    (hreads : ∀ slots, v.slots? .direct record.names = some slots → record.Reads .buffered slots a →
      record.Reads .direct slots a) :
    record.decode .direct v = .ok a := by
  obtain ⟨slots, hslots, hbuffered⟩ := Record.decode_eq_ok.1 h
  rw [← Value.slots?_direct] at hslots
  exact Record.decode_eq_ok.2 ⟨slots, hslots, hreads slots hslots hbuffered⟩

mutual

/-- A schema without choices reads from the document what it reads from a copy. -/
theorem Schema.decode_direct : {α : Type} → (schema : Schema α) → schema.ChoiceFree → {v : Value} → {a : α} →
    schema.decode .buffered v = .ok a → schema.decode .direct v = .ok a
  | _, .string, _, v, _, h | _, .bool, _, v, _, h | _, .number, _, v, _, h | _, .date, _, v, _, h
  | _, .texts, _, v, _, h => by
    cases v <;> exact h
  | _, .unsigned _, _, _, _, h | _, .free, _, _, _, h => h
  | _, .list element, hf, _, _, h => by
    obtain ⟨items, rfl, hitems⟩ := Schema.decode_list_eq_ok.1 h
    exact Schema.decode_list_eq_ok.2 ⟨items, rfl, hitems.imp fun _ _ => Schema.decode_direct element hf⟩
  | _, .record record, hf, _, _, h => Record.decode_direct record hf h
  | _, .tagged _ variants _ _ _ _, _, _, _, h => Schema.decode_tagged_eq_ok.2 (Schema.decode_tagged_eq_ok.1 h)

theorem Record.decode_direct : {α : Type} → (record : Record α) → record.ChoiceFree → {v : Value} → {a : α} →
    record.decode .buffered v = .ok a → record.decode .direct v = .ok a
  | _, .of _ fields _ _ _ _, hf, _, _, h =>
    Record.decode_direct_of_reads h fun _ _ => Fields.reads_direct fields hf

theorem Field.read_direct : {α : Type} → (field : Field α) → field.ChoiceFree → {slot : Option Value} → {a : α} →
    field.read .buffered slot = .ok a → field.read .direct slot = .ok a
  | _, .required _ schema, hf, _, _, h => by
    obtain ⟨v, rfl, hdecode⟩ := Field.read_required_eq_ok.1 h
    exact Field.read_required_eq_ok.2 ⟨v, rfl, Schema.decode_direct schema hf hdecode⟩
  | _, .optional _ _, _, _, none, h => Field.read_optional_eq_ok_none.2 (Field.read_optional_eq_ok_none.1 h)
  | _, .optional _ schema, hf, _, some _, h => by
    obtain ⟨v, rfl, hv, hdecode⟩ := Field.read_optional_eq_ok_some.1 h
    exact Field.read_optional_eq_ok_some.2 ⟨v, rfl, hv, Schema.decode_direct schema hf hdecode⟩
  | _, .defaulted _ schema _ _ _, hf, _, _, h => by
    rcases Field.read_defaulted_eq_ok.1 h with ⟨v, rfl, hdecode⟩ | hdefault
    · exact Field.read_defaulted_eq_ok.2 (Or.inl ⟨v, rfl, Schema.decode_direct schema hf hdecode⟩)
    · exact Field.read_defaulted_eq_ok.2 (Or.inr hdefault)

theorem Fields.reads_direct : {ρ : Type} → (fields : Fields ρ) → fields.ChoiceFree → {slots : List (Option Value)} →
    {row : ρ} → fields.Reads .buffered slots row → fields.Reads .direct slots row
  | _, .nil, _, _, _, h => h
  | _, .cons field rest, hf, _ :: _, (_, _), h =>
    ⟨Field.read_direct field hf.1 h.1, Fields.reads_direct rest hf.2 h.2⟩

end

end FlowCheck
