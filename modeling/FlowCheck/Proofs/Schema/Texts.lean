import FlowCheck.Proofs.Schema.RoundTrip

/-!
# The texts of values

The texts of a tree are its keys and the texts that stand in it (`Value.texts`), those of a typed value are the texts
that are written for it as they are (`Schema.heldTexts`).  Reading makes up no texts: what is read has texts of the
tree or of defaults only (`Schema.heldTexts_subset_of_decode`).
-/

namespace FlowCheck

variable {α ρ σ : Type} {route : Route} {sources : List String}

/-! ### Trees -/

namespace Value

mutual

/-- The keys of the mappings in a tree, and its texts. -/
def texts : Value → List String
  | .string s => [s]
  | .list items => textsItems items
  | .object fields => textsFields fields
  | _ => []

def textsItems : List Value → List String
  | [] => []
  | v :: vs => texts v ++ textsItems vs

def textsFields : List (String × Value) → List String
  | [] => []
  | (k, v) :: fields => k :: (texts v ++ textsFields fields)

end

theorem texts_list (items : List Value) : (Value.list items).texts = items.flatMap texts := by
  rw [texts]
  induction items with
  | nil => rfl
  | cons v items ih => rw [textsItems, ih, List.flatMap_cons]

theorem texts_object (fields : List (String × Value)) :
    (Value.object fields).texts = fields.flatMap fun field => field.1 :: field.2.texts := by
  rw [texts]
  induction fields with
  | nil => rfl
  | cons field fields ih =>
    obtain ⟨k, v⟩ := field
    rw [textsFields, ih, List.flatMap_cons]
    rfl

theorem texts_subset_of_mem {items : List Value} {v : Value} (h : v ∈ items) : v.texts ⊆ (Value.list items).texts := by
  rw [texts_list]
  exact fun s hs => List.mem_flatMap.2 ⟨v, h, hs⟩

theorem texts_subset_of_field {fields : List (String × Value)} {field : String × Value} (h : field ∈ fields) :
    field.1 :: field.2.texts ⊆ (Value.object fields).texts := by
  rw [texts_object]
  exact fun s hs => List.mem_flatMap.2 ⟨field, h, hs⟩

theorem texts_subset_of_lookup {fields : List (String × Value)} {k : String} {v : Value}
    (h : fields.lookup k = some v) : v.texts ⊆ (Value.object fields).texts :=
  List.Subset.trans (List.subset_cons_self _ _) (texts_subset_of_field (Entries.mem_of_lookup h))

/-- What stands in a slot has texts of the structure only. -/
theorem texts_subset_of_slots {names : List String} {v : Value} {slots : List (Option Value)}
    (hslots : v.slots? route names = some slots) {w : Value} (hw : some w ∈ slots) : w.texts ⊆ v.texts := by
  cases v with
  | object entries =>
    cases hslots
    obtain ⟨name, -, hname⟩ := List.mem_map.1 hw
    exact texts_subset_of_lookup hname
  | list items =>
    simp only [Value.slots?] at hslots
    split at hslots
    · cases hslots
      exact texts_subset_of_mem (Value.mem_of_mem_itemSlots hw)
    · cases hslots
  | _ => cases hslots

theorem texts_subset_of_tagged {v tag content : Value} (h : v.tagged? = some (tag, content)) :
    tag.texts ⊆ v.texts ∧ content.texts ⊆ v.texts := by
  cases v with
  | object entries =>
    simp only [Value.tagged?, Option.map_eq_some_iff, Prod.mk.injEq] at h
    obtain ⟨_, hlookup, rfl, rfl⟩ := h
    refine ⟨texts_subset_of_lookup hlookup, ?_⟩
    rw [texts_object, texts_object]
    intro s hs
    obtain ⟨field, hfield, hs⟩ := List.mem_flatMap.1 hs
    exact List.mem_flatMap.2 ⟨field, List.mem_of_mem_filter hfield, hs⟩
  | list items =>
    cases items with
    | nil => cases h
    | cons first items =>
      cases h
      rw [texts_list, texts_list, List.flatMap_cons]
      exact ⟨List.subset_append_left _ _, List.subset_append_right _ _⟩
  | _ => cases h

end Value

/-! ### Typed values -/

mutual

/-- The texts that are written for a value as they are; not the names of fields, members and choices, nor dates. -/
@[simp] def Schema.heldTexts : {α : Type} → Schema α → α → List String
  | _, .string, s => [s]
  | _, .bool, _ | _, .unsigned _, _ | _, .number, _ | _, .date, _ | _, .choice _, _ => []
  | _, .texts, entries => entries.flatMap fun entry => [entry.1, entry.2]
  | _, .free, v => v.texts
  | _, .list element, as => as.flatMap element.heldTexts
  | _, .record record, a => record.heldTexts a
  | _, .tagged _ variants _ parts _ _, a => variants.heldTexts (parts a)

@[simp] def Record.heldTexts : {α : Type} → Record α → α → List String
  | _, .of _ fields _ parts _ _, a => fields.heldTexts (parts a)

@[simp] def Field.heldTexts : {α : Type} → Field α → α → List String
  | _, .required _ schema, a => schema.heldTexts a
  | _, .optional _ schema, o => o.toList.flatMap schema.heldTexts
  | _, .defaulted _ schema _ _ _, a => schema.heldTexts a

@[simp] def Fields.heldTexts : {ρ : Type} → Fields ρ → ρ → List String
  | _, .nil, _ => []
  | _, .cons field rest, (a, row) => field.heldTexts a ++ rest.heldTexts row

@[simp] def Variants.heldTexts : {σ : Type} → Variants σ → σ → List String
  | _, .cons _ _ record _, .inl a => record.heldTexts a
  | _, .cons _ _ _ rest, .inr s => rest.heldTexts s

end

mutual

/-- The texts of the defaults in a schema. -/
def Schema.defaultTexts : {α : Type} → Schema α → List String
  | _, .string | _, .bool | _, .unsigned _ | _, .number | _, .date | _, .choice _ | _, .texts | _, .free => []
  | _, .list element => element.defaultTexts
  | _, .record record => record.defaultTexts
  | _, .tagged _ variants _ _ _ _ => variants.defaultTexts

def Record.defaultTexts : {α : Type} → Record α → List String
  | _, .of _ fields _ _ _ _ => fields.defaultTexts

def Field.defaultTexts : {α : Type} → Field α → List String
  | _, .required _ schema => schema.defaultTexts
  | _, .optional _ schema => schema.defaultTexts
  | _, .defaulted _ schema default _ _ => schema.heldTexts default ++ schema.defaultTexts

def Fields.defaultTexts : {ρ : Type} → Fields ρ → List String
  | _, .nil => []
  | _, .cons field rest => field.defaultTexts ++ rest.defaultTexts

def Variants.defaultTexts : {σ : Type} → Variants σ → List String
  | _, .nil => []
  | _, .cons _ _ record rest => record.defaultTexts ++ rest.defaultTexts

end

mutual

/-- What is read from a tree has texts of the tree and of defaults only. -/
theorem Schema.heldTexts_subset_of_decode {route : Route} : {α : Type} → (schema : Schema α) →
    schema.defaultTexts ⊆ sources → {v : Value} → v.texts ⊆ sources → {a : α} → schema.decode route v = .ok a →
    schema.heldTexts a ⊆ sources
  | _, .bool, _, _, _, _, _ | _, .unsigned _, _, _, _, _, _ | _, .number, _, _, _, _, _ | _, .date, _, _, _, _, _
  | _, .choice _, _, _, _, _, _ => List.nil_subset _
  | _, .string, _, v, hv, s, h => by
    cases v with
    | string s =>
      cases h
      exact hv
    | _ => cases h
  | _, .texts, _, v, hv, texts, h => by
    cases v with
    | object entries =>
      obtain rfl := decodeTexts_eq_ok.1 h
      rw [Value.texts_object, List.flatMap_map] at hv
      exact hv
    | _ => simp [Schema.decode] at h
  | _, .free, _, _, hv, _, h => by
    cases h
    exact hv
  | _, .list element, hd, _, hv, as, h => by
    obtain ⟨items, rfl, hitems⟩ := Schema.decode_list_eq_ok.1 h
    intro s hs
    obtain ⟨a, ha, hs⟩ := List.mem_flatMap.1 hs
    obtain ⟨item, hitem, hdecode⟩ := exists_of_mem_right hitems ha
    have hitemTexts : item.texts ⊆ sources := List.Subset.trans (Value.texts_subset_of_mem hitem) hv
    exact Schema.heldTexts_subset_of_decode element hd hitemTexts hdecode hs
  | _, .record record, hd, _, hv, _, h => Record.heldTexts_subset_of_decode record hd hv h
  | _, .tagged _ variants _ _ _ _, hd, _, hv, _, h => by
    obtain ⟨tag, content, ht, hmember⟩ := Schema.decode_tagged_eq_ok.1 h
    have hcontent : content.texts ⊆ sources := List.Subset.trans (Value.texts_subset_of_tagged ht).2 hv
    exact Variants.heldTexts_subset_of_decode variants hd hcontent hmember

theorem Record.heldTexts_subset_of_decode {route : Route} : {α : Type} → (record : Record α) →
    record.defaultTexts ⊆ sources → {v : Value} → v.texts ⊆ sources → {a : α} → record.decode route v = .ok a →
    record.heldTexts a ⊆ sources
  | _, .of _ fields _ _ _ _, hd, _, hv, _, h => by
    obtain ⟨slots, hslots, hreads⟩ := Record.decode_eq_ok.1 h
    exact Fields.heldTexts_subset_of_reads fields hd
      (fun _ hw => List.Subset.trans (Value.texts_subset_of_slots hslots hw) hv) hreads

theorem Field.heldTexts_subset_of_read {route : Route} : {α : Type} → (field : Field α) →
    field.defaultTexts ⊆ sources → {slot : Option Value} → (∀ w, slot = some w → w.texts ⊆ sources) → {a : α} →
    field.read route slot = .ok a → field.heldTexts a ⊆ sources
  | _, .required _ schema, hd, some v, hs, _, h => Schema.heldTexts_subset_of_decode schema hd (hs v rfl) h
  | _, .optional _ _, _, _, _, none, _ => List.nil_subset _
  | _, .optional _ schema, hd, _, hs, some a, h => by
    obtain ⟨v, rfl, -, hdecode⟩ := Field.read_optional_eq_ok_some.1 h
    rw [Field.heldTexts, Option.toList_some, List.flatMap_singleton]
    exact Schema.heldTexts_subset_of_decode schema hd (hs v rfl) hdecode
  | _, .defaulted _ schema _ _ _, hd, some v, hs, _, h =>
    Schema.heldTexts_subset_of_decode schema (List.append_subset.1 hd).2 (hs v rfl) h
  | _, .defaulted _ _ _ _ _, hd, none, _, _, h => by
    cases h
    exact (List.append_subset.1 hd).1

theorem Fields.heldTexts_subset_of_reads {route : Route} : {ρ : Type} → (fields : Fields ρ) →
    fields.defaultTexts ⊆ sources → {slots : List (Option Value)} → (∀ w, some w ∈ slots → w.texts ⊆ sources) →
    {row : ρ} → fields.Reads route slots row → fields.heldTexts row ⊆ sources
  | _, .nil, _, _, _, _, _ => List.nil_subset _
  | _, .cons field rest, hd, _ :: _, hs, (_, _), h =>
    List.append_subset.2
      ⟨Field.heldTexts_subset_of_read field (List.append_subset.1 hd).1
          (fun w hw => hs w (hw ▸ List.mem_cons_self)) h.1,
        Fields.heldTexts_subset_of_reads rest (List.append_subset.1 hd).2
          (fun w hw => hs w (List.mem_cons_of_mem _ hw)) h.2⟩

theorem Variants.heldTexts_subset_of_decode : {σ : Type} → (variants : Variants σ) →
    variants.defaultTexts ⊆ sources → {name : String} → {content : Value} → content.texts ⊆ sources → {s : σ} →
    variants.decode? name content = some (.ok s) → variants.heldTexts s ⊆ sources
  | _, .cons _ _ record _, hd, _, _, hv, .inl _, h =>
    Record.heldTexts_subset_of_decode record (List.append_subset.1 hd).1 hv (Variants.decode?_inl_eq_ok.1 h).2
  | _, .cons _ _ _ rest, hd, _, _, hv, .inr _, h =>
    Variants.heldTexts_subset_of_decode rest (List.append_subset.1 hd).2 hv (Variants.decode?_inr_eq_ok.1 h).2

end

end FlowCheck
