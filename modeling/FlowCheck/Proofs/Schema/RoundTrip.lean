import FlowCheck.Proofs.Instants
import FlowCheck.Proofs.Schema.Slots
import FlowCheck.Proofs.SortedTrees

/-!
# What is written reads back

A schema is *lawful* if the fields of each structure have different names, no member of a tagged family has a field
with the name of the tag, no tag that is written is read as an earlier member, and all defaults can be read.  Then

* a value is *readable* if its mappings are in the order of their keys and no optional field holds null; what is read
  from a sorted tree is readable (`Schema.readable_of_decode`);
* a readable value reads back from its tree, whose mappings may have been sorted (`Schema.decode_sortKeys_encode`).

So the forms that are read but not written make no difference: lists for structures, mappings for choices, aliases,
unknown fields and absent defaults.
-/

namespace FlowCheck

variable {α ρ σ : Type} {route : Route}

/-! ### Readable values and lawful schemas -/

mutual

/-- The values that sorted trees stand for. -/
@[simp] def Schema.Readable : {α : Type} → Schema α → α → Prop
  | _, .string, _ | _, .bool, _ | _, .unsigned _, _ | _, .number, _ | _, .date, _ | _, .choice _, _ => True
  | _, .texts, entries => entries.Pairwise fun a b => a.1 < b.1
  | _, .free, v => v.Sorted
  | _, .list element, as => ∀ a ∈ as, element.Readable a
  | _, .record record, a => record.Readable a
  | _, .tagged _ variants _ parts _ _, a => variants.Readable (parts a)

def Record.Readable : {α : Type} → Record α → α → Prop
  | _, .of _ fields _ parts _ _, a => fields.Readable (parts a)

def Field.Readable : {α : Type} → Field α → α → Prop
  | _, .required _ schema, a => schema.Readable a
  | _, .optional _ _, none => True
  | _, .optional _ schema, some a => schema.Readable a ∧ schema.encode a ≠ .null
  | _, .defaulted _ schema _ _ _, a => schema.Readable a

def Fields.Readable : {ρ : Type} → Fields ρ → ρ → Prop
  | _, .nil, _ => True
  | _, .cons field rest, (a, row) => field.Readable a ∧ rest.Readable row

def Variants.Readable : {σ : Type} → Variants σ → σ → Prop
  | _, .cons _ _ record _, .inl a => record.Readable a
  | _, .cons _ _ _ rest, .inr s => rest.Readable s

end

/-- The tags that are written. -/
@[simp] def Variants.written : {σ : Type} → Variants σ → List String
  | _, .nil => []
  | _, .cons tag _ _ rest => tag :: rest.written

mutual

/-- Names tell fields apart, tags tell members apart, and defaults can be read. -/
@[simp] def Schema.Lawful : {α : Type} → Schema α → Prop
  | _, .string | _, .bool | _, .unsigned _ | _, .number | _, .date | _, .choice _ | _, .texts | _, .free => True
  | _, .list element => element.Lawful
  | _, .record record => record.Lawful
  | _, .tagged _ variants _ _ _ _ => variants.Lawful

@[simp] def Record.Lawful : {α : Type} → Record α → Prop
  | _, .of _ fields _ _ _ _ => fields.names.Nodup ∧ fields.Lawful

@[simp] def Field.Lawful : {α : Type} → Field α → Prop
  | _, .required _ schema => schema.Lawful
  | _, .optional _ schema => schema.Lawful
  | _, .defaulted _ schema default _ _ => schema.Lawful ∧ schema.Readable default

@[simp] def Fields.Lawful : {ρ : Type} → Fields ρ → Prop
  | _, .nil => True
  | _, .cons field rest => field.Lawful ∧ rest.Lawful

@[simp] def Variants.Lawful : {σ : Type} → Variants σ → Prop
  | _, .nil => True
  | _, .cons tag aliases record rest =>
    record.Lawful ∧ tagField ∉ record.names ∧ (∀ name ∈ rest.written, ¬(name = tag ∨ name ∈ aliases)) ∧ rest.Lawful

end

/-! ### What is read is readable -/

theorem decodeTexts_eq_ok {entries : List (String × Value)} {texts : List (String × String)} :
    decodeTexts entries = .ok texts ↔ entries = texts.map fun text => (text.1, .string text.2) := by
  induction entries generalizing texts with
  | nil => cases texts <;> simp [decodeTexts]
  | cons entry entries ih =>
    obtain ⟨key, v⟩ := entry
    cases v with
    | string s =>
      simp only [decodeTexts, bind_eq_ok, ih]
      cases texts with
      | nil => simp [pure, Except.pure]
      | cons text texts =>
        obtain ⟨k, t⟩ := text
        simp [pure, Except.pure, and_assoc, and_comm]
    | _ => cases texts <;> simp [decodeTexts]

/-- Only null is written as null. -/
theorem Schema.encode_ne_null {schema : Schema α} {v : Value} {a : α} (h : schema.decode route v = .ok a)
    (hv : v ≠ .null) : schema.encode a ≠ .null := by
  cases schema with
  | free =>
    obtain rfl : v = a := Except.ok.inj h
    exact hv
  | _ => simp [Schema.encode]

/-- The slots of a sorted tree hold sorted trees. -/
theorem Value.Sorted.of_slots {names : List String} {v : Value} (h : v.Sorted) {slots : List (Option Value)}
    (hslots : v.slots? route names = some slots) {w : Value} (hw : some w ∈ slots) : w.Sorted := by
  cases v with
  | object entries =>
    cases hslots
    obtain ⟨name, -, hname⟩ := List.mem_map.1 hw
    exact h.of_lookup hname
  | list items =>
    simp only [Value.slots?] at hslots
    split at hslots
    · cases hslots
      exact h.of_mem (Value.mem_of_mem_itemSlots hw)
    · cases hslots
  | _ => cases hslots

theorem Value.Sorted.of_tagged {v tag content : Value} (h : v.Sorted) (ht : v.tagged? = some (tag, content)) :
    content.Sorted := by
  cases v with
  | object entries =>
    simp only [Value.tagged?, Option.map_eq_some_iff, Prod.mk.injEq] at ht
    obtain ⟨_, -, -, rfl⟩ := ht
    exact h.filter _
  | list items =>
    cases items with
    | nil => cases ht
    | cons first items =>
      cases ht
      simp only [Value.Sorted, Value.SortedItems] at h ⊢
      exact h.2
  | _ => cases ht

mutual

/-- What is read from a sorted tree is readable. -/
theorem Schema.readable_of_decode {route : Route} : {α : Type} → (schema : Schema α) → schema.Lawful → {v : Value} →
    v.Sorted → {a : α} → schema.decode route v = .ok a → schema.Readable a
  | _, .string, _, _, _, _, _ | _, .bool, _, _, _, _, _ | _, .unsigned _, _, _, _, _, _
  | _, .number, _, _, _, _, _ | _, .date, _, _, _, _, _ | _, .choice _, _, _, _, _, _ => trivial
  | _, .texts, _, v, hv, texts, h => by
    cases v with
    | object entries =>
      obtain rfl := decodeTexts_eq_ok.1 h
      simp only [Value.Sorted, List.pairwise_map] at hv
      exact hv.1
    | _ => simp [Schema.decode] at h
  | _, .free, _, _, hv, _, h => by
    cases h
    exact hv
  | _, .list element, hl, _, hv, as, h => by
    obtain ⟨items, rfl, hitems⟩ := Schema.decode_list_eq_ok.1 h
    intro a ha
    obtain ⟨item, hitem, hdecode⟩ := exists_of_mem_right hitems ha
    exact Schema.readable_of_decode element hl (hv.of_mem hitem) hdecode
  | _, .record record, hl, _, hv, _, h => Record.readable_of_decode record hl hv h
  | _, .tagged _ variants _ _ _ _, hl, _, hv, _, h => by
    obtain ⟨tag, content, ht, hmember⟩ := Schema.decode_tagged_eq_ok.1 h
    exact Variants.readable_of_decode variants hl (hv.of_tagged ht) hmember

theorem Record.readable_of_decode {route : Route} : {α : Type} → (record : Record α) → record.Lawful → {v : Value} →
    v.Sorted → {a : α} → record.decode route v = .ok a → record.Readable a
  | _, .of _ fields _ _ _ _, hl, _, hv, _, h => by
    obtain ⟨slots, hslots, hreads⟩ := Record.decode_eq_ok.1 h
    exact Fields.readable_of_reads fields hl.2 (fun _ hw => hv.of_slots hslots hw) hreads

theorem Field.readable_of_read {route : Route} : {α : Type} → (field : Field α) → field.Lawful →
    {slot : Option Value} → (∀ w, slot = some w → w.Sorted) → {a : α} → field.read route slot = .ok a →
    field.Readable a
  | _, .required _ schema, hl, some v, hs, _, h => Schema.readable_of_decode schema hl (hs v rfl) h
  | _, .optional _ _, _, _, _, none, _ => trivial
  | _, .optional _ schema, hl, _, hs, some _, h => by
    obtain ⟨v, rfl, hv, hdecode⟩ := Field.read_optional_eq_ok_some.1 h
    exact ⟨Schema.readable_of_decode schema hl (hs v rfl) hdecode, Schema.encode_ne_null hdecode hv⟩
  | _, .defaulted _ schema _ _ _, hl, some v, hs, _, h => Schema.readable_of_decode schema hl.1 (hs v rfl) h
  | _, .defaulted _ _ _ _ _, hl, none, _, _, h => by
    cases h
    exact hl.2

theorem Fields.readable_of_reads {route : Route} : {ρ : Type} → (fields : Fields ρ) → fields.Lawful →
    {slots : List (Option Value)} → (∀ w, some w ∈ slots → w.Sorted) → {row : ρ} → fields.Reads route slots row →
    fields.Readable row
  | _, .nil, _, _, _, _, _ => trivial
  | _, .cons field rest, hl, _ :: _, hs, (_, _), h =>
    ⟨Field.readable_of_read field hl.1 (fun w hw => hs w (hw ▸ List.mem_cons_self)) h.1,
      Fields.readable_of_reads rest hl.2 (fun w hw => hs w (List.mem_cons_of_mem _ hw)) h.2⟩

theorem Variants.readable_of_decode : {σ : Type} → (variants : Variants σ) → variants.Lawful → {name : String} →
    {content : Value} → content.Sorted → {s : σ} → variants.decode? name content = some (.ok s) →
    variants.Readable s
  | _, .cons _ _ record _, hl, _, _, hv, .inl _, h =>
    Record.readable_of_decode record hl.1 hv (Variants.decode?_inl_eq_ok.1 h).2
  | _, .cons _ _ _ rest, hl, _, _, hv, .inr _, h =>
    Variants.readable_of_decode rest hl.2.2.2 hv (Variants.decode?_inr_eq_ok.1 h).2

end

/-! ### The entries of written structures -/

private theorem Field.keys_encodeEntry_sublist (field : Field α) (a : α) :
    ((field.encodeEntry a).map (·.1)).Sublist [field.name] := by
  cases field with
  | required name schema => exact List.Sublist.refl _
  | optional name schema =>
    cases a with
    | none => exact List.nil_sublist _
    | some a => exact List.Sublist.refl _
  | defaulted name schema default omitted h =>
    simp only [Field.encodeEntry]
    split
    · exact List.nil_sublist _
    · exact List.Sublist.refl _

theorem Fields.keys_encodeEntries_sublist : {ρ : Type} → (fields : Fields ρ) → (row : ρ) →
    ((fields.encodeEntries row).map (·.1)).Sublist fields.names
  | _, .nil, _ => List.Sublist.refl _
  | _, .cons field rest, (a, row) => by
    rw [Fields.encodeEntries, List.map_append]
    exact (Field.keys_encodeEntry_sublist field a).append (Fields.keys_encodeEntries_sublist rest row)

theorem Record.keys_encodeEntries_sublist (record : Record α) (a : α) :
    ((record.encodeEntries a).map (·.1)).Sublist record.names := by
  obtain ⟨name, fields, build, parts, build_parts, parts_build⟩ := record
  exact Fields.keys_encodeEntries_sublist fields (parts a)

theorem Record.nodup_names {record : Record α} (h : record.Lawful) : record.names.Nodup := by
  obtain ⟨name, fields, build, parts, build_parts, parts_build⟩ := record
  exact h.1

/-- Sorting the entries of a written structure keeps what is found under each name. -/
theorem Record.lookup_orderedFields {record : Record α} (h : record.Lawful) (a : α) (name : String) :
    (Value.orderedFields (record.encodeEntries a)).lookup name =
      ((record.encodeEntries a).lookup name).map Value.sortKeys :=
  Value.lookup_orderedFields ((Record.keys_encodeEntries_sublist record a).nodup (Record.nodup_names h)) name

/-- The entries of a tagged value are its tag and the entries of the member, with different keys. -/
theorem Variants.encodeEntries_eq_cons : {σ : Type} → (variants : Variants σ) → variants.Lawful → (s : σ) →
    ∃ entries, variants.encodeEntries s = (tagField, .string (variants.tagOf s)) :: entries ∧
      ((variants.encodeEntries s).map (·.1)).Nodup
  | _, .cons tag _ record _, hl, .inl a => by
    have hkeys := Record.keys_encodeEntries_sublist record a
    refine ⟨record.encodeEntries a, rfl, List.nodup_cons.2 ⟨?_, hkeys.nodup (Record.nodup_names hl.1)⟩⟩
    exact fun h => hl.2.1 (hkeys.subset h)
  | _, .cons _ _ _ rest, hl, .inr s => Variants.encodeEntries_eq_cons rest hl.2.2.2 s

/-- The tag is found among the sorted entries of a tagged value. -/
theorem Variants.lookup_tagField {variants : Variants σ} (h : variants.Lawful) (s : σ) :
    (Value.orderedFields (variants.encodeEntries s)).lookup tagField = some (.string (variants.tagOf s)) := by
  obtain ⟨entries, hentries, hkeys⟩ := Variants.encodeEntries_eq_cons variants h s
  rw [Value.lookup_orderedFields hkeys, hentries, List.lookup_cons_self]
  simp only [Option.map_some, Value.sortKeys]

theorem Variants.tagOf_mem_written : {σ : Type} → (variants : Variants σ) → (s : σ) →
    variants.tagOf s ∈ variants.written
  | _, .cons _ _ _ _, .inl _ => List.mem_cons_self
  | _, .cons _ _ _ rest, .inr s => List.mem_cons_of_mem _ (Variants.tagOf_mem_written rest s)

private theorem sorted_texts {texts : List (String × String)} (h : texts.Pairwise fun a b => a.1 < b.1) :
    (Value.object (texts.map fun text => (text.1, .string text.2))).Sorted := by
  simp only [Value.Sorted, List.pairwise_map, Value.sortedFields_iff, List.mem_map]
  refine ⟨h, ?_⟩
  rintro _ ⟨text, -, rfl⟩
  simp only [Value.Sorted]

/-! ### What is written reads back -/

mutual

/-- A readable value reads back from its tree, also when the mappings of the tree are sorted. -/
theorem Schema.decode_sortKeys_encode {route : Route} : {α : Type} → (schema : Schema α) → schema.Lawful → {a : α} →
    schema.Readable a → schema.decode route (schema.encode a).sortKeys = .ok a
  | _, .string, _, _, _ | _, .bool, _, _, _ | _, .number, _, _, _ => rfl
  | _, .unsigned w, _, n, _ => by
    have hlt := w.natOf_lt n
    simp only [Schema.encode, Value.sortKeys, Schema.decode, Width.decode, WideInt.ofNat, Int.toNat_natCast]
    rw [if_pos (by omega), w.wordOf_natOf]
  | _, .date, _, t, _ => by
    simp only [Schema.encode, Value.sortKeys, Schema.decode, t.read_text]
    rfl
  | _, .texts, _, _, hr => by
    simp only [Schema.encode]
    rw [Value.sortKeys_of_sorted _ (sorted_texts hr)]
    exact decodeTexts_eq_ok.2 rfl
  | _, .free, _, v, hr => by
    simp only [Schema.encode, Value.sortKeys_of_sorted v hr]
    rfl
  | _, .choice choices, _, a, _ => by
    simp only [Schema.encode, Value.sortKeys, Schema.decode, Choices.decode, Choices.read, choices.ofName?_name]
  | _, .list element, hl, as, hr => by
    simp only [Schema.encode, Value.sortKeys_list]
    refine Schema.decode_list_eq_ok.2 ⟨_, rfl, ?_⟩
    rw [List.map_map, List.forall₂_map_left_iff, List.forall₂_same]
    exact fun a ha => Schema.decode_sortKeys_encode element hl (hr a ha)
  | _, .record record, hl, a, hr => by
    simp only [Schema.encode, Value.sortKeys_object]
    exact Record.decode_written record hl hr fun name _ => Record.lookup_orderedFields hl a name
  | _, .tagged _ variants _ parts _ _, hl, a, hr => by
    simp only [Schema.encode, Value.sortKeys_object]
    refine Schema.decode_tagged_eq_ok.2 ⟨variants.tagOf (parts a), _, ?_, Variants.decode?_written variants hl hr⟩
    simp only [Value.tagged?, Variants.lookup_tagField hl, Option.map_some]

theorem Record.decode_written {route : Route} : {α : Type} → (record : Record α) → record.Lawful → {a : α} →
    record.Readable a → {entries : List (String × Value)} →
    (∀ name ∈ record.names, entries.lookup name = ((record.encodeEntries a).lookup name).map Value.sortKeys) →
    record.decode route (.object entries) = .ok a
  | _, .of _ fields _ _ _ _, hl, _, hr, _, hentries =>
    Record.decode_eq_ok.2 ⟨_, rfl, Fields.reads_written fields hl.2 hl.1 hr hentries⟩

theorem Field.read_written {route : Route} : {α : Type} → (field : Field α) → field.Lawful → {a : α} →
    field.Readable a → field.read route (((field.encodeEntry a).lookup field.name).map Value.sortKeys) = .ok a
  | _, .required name schema, hl, a, hr => by
    simp only [Field.encodeEntry, Field.name, List.lookup_cons_self, Option.map_some]
    exact Schema.decode_sortKeys_encode schema hl hr
  | _, .optional name schema, hl, none, hr => rfl
  | _, .optional name schema, hl, some a, hr => by
    simp only [Field.encodeEntry, Field.name, List.lookup_cons_self, Option.map_some]
    exact Field.read_optional_eq_ok_some.2
      ⟨_, rfl, Value.sortKeys_ne_null hr.2, Schema.decode_sortKeys_encode schema hl hr.1⟩
  | _, .defaulted name schema default omitted eq_default, hl, a, hr => by
    simp only [Field.encodeEntry, Field.name]
    split
    · rename_i h
      rw [eq_default a h]
      rfl
    · simp only [List.lookup_cons_self, Option.map_some]
      exact Schema.decode_sortKeys_encode schema hl.1 hr

theorem Fields.reads_written {route : Route} : {ρ : Type} → (fields : Fields ρ) → fields.Lawful →
    fields.names.Nodup → {row : ρ} → fields.Readable row → {entries : List (String × Value)} →
    (∀ name ∈ fields.names, entries.lookup name = ((fields.encodeEntries row).lookup name).map Value.sortKeys) →
    fields.Reads route (fields.names.map fun name => entries.lookup name) row
  | _, .nil, _, _, _, _, _, _ => rfl
  | _, .cons field rest, hl, hn, (a, row), hr, entries, hentries => by
    rw [Fields.names, List.nodup_cons] at hn
    -- names tell the entry of this field from those of the others
    have hrest : (rest.encodeEntries row).lookup field.name = none :=
      Entries.lookup_eq_none fun h => hn.1 ((Fields.keys_encodeEntries_sublist rest row).subset h)
    have hfirst : ∀ name, name ≠ field.name → (field.encodeEntry a).lookup name = none := fun name hne =>
      Entries.lookup_eq_none fun h =>
        hne (List.mem_singleton.1 ((Field.keys_encodeEntry_sublist field a).subset h))
    have hslot : entries.lookup field.name = ((field.encodeEntry a).lookup field.name).map Value.sortKeys := by
      rw [hentries field.name List.mem_cons_self, Fields.encodeEntries, List.lookup_append, hrest, Option.or_none]
    have hfield := (congrArg (field.read route) hslot).trans (Field.read_written field hl.1 hr.1)
    refine ⟨hfield, Fields.reads_written rest hl.2 hn.2 hr.2 ?_⟩
    intro name hname
    have hne : name ≠ field.name := fun he => hn.1 (he ▸ hname)
    rw [hentries name (List.mem_cons_of_mem _ hname), Fields.encodeEntries, List.lookup_append, hfirst name hne,
      Option.none_or]

theorem Variants.decode?_written : {σ : Type} → (variants : Variants σ) → variants.Lawful → {s : σ} →
    variants.Readable s →
    variants.decode? (variants.tagOf s)
      (.object ((Value.orderedFields (variants.encodeEntries s)).filter (·.1 != tagField))) = some (.ok s)
  | _, .cons tag aliases record rest, hl, .inl a, hr => by
    obtain ⟨-, -, hkeys⟩ := Variants.encodeEntries_eq_cons (.cons tag aliases record rest) hl (.inl a)
    refine Variants.decode?_inl_eq_ok.2 ⟨Or.inl rfl, Record.decode_written record hl.1 hr ?_⟩
    intro name hname
    -- taking the tag out leaves the fields of the member
    have hne : name ≠ tagField := fun he => hl.2.1 (he ▸ hname)
    rw [Entries.lookup_filter_ne hne, Value.lookup_orderedFields hkeys, Variants.encodeEntries, List.lookup_cons,
      beq_false_of_ne hne]
  | _, .cons _ _ _ rest, hl, .inr s, hr =>
    Variants.decode?_inr_eq_ok.2 ⟨hl.2.2.1 _ (Variants.tagOf_mem_written rest s),
      Variants.decode?_written rest hl.2.2.2 hr⟩

end

end FlowCheck
