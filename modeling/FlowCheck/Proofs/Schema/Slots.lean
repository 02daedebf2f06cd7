import FlowCheck.Schema.Decode
import FlowCheck.Schema.Encode
import Mathlib.Data.List.Forall2

/-!
# Reading slot by slot

A structure written as a mapping and one written as a list are read in the same way, from what stands in the place of
each field: its *slot*, the value under the name of the field or the element at its position (`Value.slots?`).

* A record is read from a tree exactly if each field is read from its slot (`Record.decode_eq_ok`).
* A list is read element by element (`Schema.decode_list_eq_ok`).
* A tagged value is a member of its family, read from what is left without the tag (`Schema.decode_tagged_eq_ok`).
-/

namespace FlowCheck

/-! ### Results -/

section Results

variable {ε α β : Type}

theorem bind_eq_ok {x : Except ε α} {f : α → Except ε β} {b : β} :
    (x >>= f) = .ok b ↔ ∃ a, x = .ok a ∧ f a = .ok b := by
  cases x <;> simp [bind, Except.bind]

theorem map_eq_ok {x : Except ε α} {f : α → β} {b : β} : x.map f = .ok b ↔ ∃ a, x = .ok a ∧ f a = b := by
  cases x <;> simp [Except.map]

theorem mapM_eq_ok {f : α → Except ε β} {as : List α} {bs : List β} :
    as.mapM f = .ok bs ↔ List.Forall₂ (fun a b => f a = .ok b) as bs := by
  induction as generalizing bs with
  | nil => cases bs <;> simp [pure, Except.pure]
  | cons a as ih =>
    rw [List.mapM_cons, bind_eq_ok]
    constructor
    · rintro ⟨b, hb, h⟩
      obtain ⟨bs', hbs, h⟩ := bind_eq_ok.1 h
      obtain rfl : b :: bs' = bs := Except.ok.inj h
      exact List.Forall₂.cons hb (ih.1 hbs)
    · intro h
      cases h with
      | cons hb hbs => exact ⟨_, hb, bind_eq_ok.2 ⟨_, ih.2 hbs, rfl⟩⟩

theorem exists_of_mem_left {r : α → β → Prop} {as : List α} {bs : List β} (h : List.Forall₂ r as bs) {a : α}
    (ha : a ∈ as) : ∃ b ∈ bs, r a b := by
  induction h with
  | nil => exact absurd ha List.not_mem_nil
  | cons hab _ ih =>
    rcases List.mem_cons.1 ha with rfl | ha
    · exact ⟨_, List.mem_cons_self, hab⟩
    · obtain ⟨b, hb, hr⟩ := ih ha
      exact ⟨b, List.mem_cons_of_mem _ hb, hr⟩

theorem exists_of_mem_right {r : α → β → Prop} {as : List α} {bs : List β} (h : List.Forall₂ r as bs) {b : β}
    (hb : b ∈ bs) : ∃ a ∈ as, r a b :=
  exists_of_mem_left h.flip hb

theorem exists_forall₂ {r : α → β → Prop} {as : List α} (h : ∀ a ∈ as, ∃ b, r a b) :
    ∃ bs, List.Forall₂ r as bs := by
  induction as with
  | nil => exact ⟨[], List.Forall₂.nil⟩
  | cons a as ih =>
    obtain ⟨b, hb⟩ := h a List.mem_cons_self
    obtain ⟨bs, hbs⟩ := ih fun a ha => h a (List.mem_cons_of_mem _ ha)
    exact ⟨b :: bs, List.Forall₂.cons hb hbs⟩

end Results

attribute [simp] Field.name Fields.names

variable {α ρ σ : Type} {route : Route}

/-! ### Slots -/

namespace Value

/-- The elements of a list in the places of the named fields. -/
def itemSlots : List String → List Value → List (Option Value)
  | [], _ => []
  | _ :: names, items => items.head? :: itemSlots names items.tail

/-- What stands in the place of each of the named fields, if the tree can be a structure with these fields. -/
def slots? (route : Route) (names : List String) : Value → Option (List (Option Value))
  | .object entries => some (names.map fun name => entries.lookup name)
  | .list items =>
    if items.length ≤ names.length ∨ route = .configuration then some (itemSlots names items) else none
  | _ => none

theorem mem_of_mem_itemSlots {names : List String} {items : List Value} {v : Value}
    (h : some v ∈ itemSlots names items) : v ∈ items := by
  induction names generalizing items with
  | nil => exact absurd h List.not_mem_nil
  | cons name names ih =>
    rcases List.mem_cons.1 h with h | h
    · exact List.mem_of_head? h.symm
    · exact List.mem_of_mem_tail (ih h)

/-- The tag of a tree, and what is left without it. -/
def tagged? : Value → Option (Value × Value)
  | .object entries =>
    (entries.lookup tagField).map fun tag => (tag, .object (entries.filter (·.1 != tagField)))
  | .list (tag :: items) => some (tag, .list items)
  | _ => none

end Value

/-- The value of a field, read from what stands in its place. -/
def Field.read (route : Route) : {α : Type} → Field α → Option Value → Except Mismatch α
  | _, .required _ schema, some v => schema.decode route v
  | _, .required name _, none => .error (.missingField name)
  | _, .optional _ _, some .null => .ok none
  | _, .optional _ schema, some v => (schema.decode route v).map some
  | _, .optional _ _, none => .ok none
  | _, .defaulted _ schema _ _ _, some v => schema.decode route v
  | _, .defaulted _ _ default _ _, none => .ok default

/-- Each field is read from its slot. -/
def Fields.Reads (route : Route) : {ρ : Type} → Fields ρ → List (Option Value) → ρ → Prop
  | _, .nil, slots, _ => slots = []
  | _, .cons _ _, [], _ => False
  | _, .cons field rest, slot :: slots, (a, row) => field.read route slot = .ok a ∧ rest.Reads route slots row

@[simp] def Record.names : {α : Type} → Record α → List String
  | _, .of _ fields _ _ _ _ => fields.names

def Record.Reads (route : Route) : {α : Type} → Record α → List (Option Value) → α → Prop
  | _, .of _ fields _ parts _ _, slots, a => fields.Reads route slots (parts a)

/-! ### Fields -/

theorem Field.read_required_eq_ok {name : String} {schema : Schema α} {slot : Option Value} {a : α} :
    (Field.required name schema).read route slot = .ok a ↔ ∃ v, slot = some v ∧ schema.decode route v = .ok a := by
  cases slot <;> simp [Field.read]

theorem Field.read_optional_eq_ok_some {name : String} {schema : Schema α} {slot : Option Value} {a : α} :
    (Field.optional name schema).read route slot = .ok (some a) ↔
      ∃ v, slot = some v ∧ v ≠ .null ∧ schema.decode route v = .ok a := by
  cases slot with
  | none => simp [Field.read]
  | some v => cases v <;> simp [Field.read, map_eq_ok]

theorem Field.read_optional_eq_ok_none {name : String} {schema : Schema α} {slot : Option Value} :
    (Field.optional name schema).read route slot = .ok none ↔ slot = none ∨ slot = some .null := by
  cases slot with
  | none => simp [Field.read]
  | some v => cases v <;> simp [Field.read, map_eq_ok]

theorem Field.read_defaulted_eq_ok {name : String} {schema : Schema α} {default : α} {omitted : α → Bool}
    {eq_default : ∀ a, omitted a = true → a = default} {slot : Option Value} {a : α} :
    (Field.defaulted name schema default omitted eq_default).read route slot = .ok a ↔
      (∃ v, slot = some v ∧ schema.decode route v = .ok a) ∨ slot = none ∧ a = default := by
  cases slot <;> simp [Field.read, eq_comm]

theorem Field.decodeEntry_eq (field : Field α) (entries : List (String × Value)) :
    field.decodeEntry route entries = field.read route (entries.lookup field.name) := by
  cases field with
  | required name schema =>
    simp only [Field.decodeEntry, Field.name]
    cases entries.lookup name <;> rfl
  | optional name schema =>
    simp only [Field.decodeEntry, Field.name]
    cases entries.lookup name with
    | none => rfl
    | some v => cases v <;> rfl
  | defaulted name schema default omitted h =>
    simp only [Field.decodeEntry, Field.name]
    cases entries.lookup name <;> rfl

private theorem Field.decodeItem_cons (expected : String) (index : Nat) (field : Field α) (v : Value)
    (rest : List Value) :
    field.decodeItem route expected index (v :: rest) = (field.read route (some v)).map fun a => (a, rest) := by
  cases field with
  | required name schema =>
    simp only [Field.decodeItem, Field.read]
    cases schema.decode route v <;> rfl
  | optional name schema =>
    cases v with
    | null => rfl
    | _ =>
      simp only [Field.decodeItem, Field.read]
      cases schema.decode route _ <;> rfl
  | defaulted name schema default omitted h =>
    simp only [Field.decodeItem, Field.read]
    cases schema.decode route v <;> rfl

theorem Field.decodeItem_eq_ok {expected : String} {index : Nat} {field : Field α} {items rest : List Value} {a : α} :
    field.decodeItem route expected index items = .ok (a, rest) ↔
      field.read route items.head? = .ok a ∧ rest = items.tail := by
  cases items with
  | nil => cases field <;> simp [Field.decodeItem, Field.read, eq_comm]
  | cons v items =>
    rw [Field.decodeItem_cons, map_eq_ok]
    simp [eq_comm]

theorem Fields.decodeEntries_eq_ok : {ρ : Type} → {fields : Fields ρ} → {entries : List (String × Value)} →
    {row : ρ} → (fields.decodeEntries route entries = .ok row ↔
      fields.Reads route (fields.names.map fun name => entries.lookup name) row)
  | _, .nil, _, _ => by simp [Fields.decodeEntries, Fields.names, Fields.Reads]
  | _, .cons field rest, entries, (a, row) => by
    rw [Fields.names, List.map_cons, Fields.Reads, ← Fields.decodeEntries_eq_ok, ← Field.decodeEntry_eq,
      Fields.decodeEntries]
    cases field.decodeEntry route entries <;> cases rest.decodeEntries route entries <;> simp

theorem Fields.decodeItems_eq_ok {expected : String} : {ρ : Type} → {fields : Fields ρ} → {index : Nat} →
    {items rest : List Value} → {row : ρ} →
    (fields.decodeItems route expected index items = .ok (row, rest) ↔
      fields.Reads route (Value.itemSlots fields.names items) row ∧ rest = items.drop fields.names.length)
  | _, .nil, _, items, rest, _ => by
    simp [Fields.decodeItems, Fields.names, Fields.Reads, Value.itemSlots, eq_comm]
  | _, .cons field fields, index, items, rest, (a, row) => by
    simp only [Fields.decodeItems, Fields.names, Value.itemSlots, Fields.Reads, bind_eq_ok, List.length_cons]
    constructor
    · rintro ⟨⟨a, left⟩, hfield, ⟨row, rest⟩, hfields, h⟩
      cases h
      obtain ⟨hread, rfl⟩ := Field.decodeItem_eq_ok.1 hfield
      obtain ⟨hreads, rfl⟩ := Fields.decodeItems_eq_ok.1 hfields
      exact ⟨⟨hread, hreads⟩, by rw [List.drop_tail]⟩
    · rintro ⟨⟨hread, hreads⟩, rfl⟩
      refine ⟨(a, items.tail), Field.decodeItem_eq_ok.2 ⟨hread, rfl⟩,
        (row, items.drop (fields.names.length + 1)), ?_, rfl⟩
      exact Fields.decodeItems_eq_ok.2 ⟨hreads, by rw [List.drop_tail]⟩

theorem Fields.length_names : {ρ : Type} → (fields : Fields ρ) → fields.names.length = fields.count
  | _, .nil => rfl
  | _, .cons _ rest => by rw [Fields.names, Fields.count, List.length_cons, Fields.length_names rest]

/-! ### Structures, lists and families -/

/-- Elements after those of a structure are surplus, except in a configuration. -/
private theorem isEmpty_drop_or_surplus (route : Route) (count : Nat) (items : List Value) :
    (items.drop count).isEmpty = true ∨ surplus? route count items.length = none ↔
      items.length ≤ count ∨ route = .configuration := by
  rw [List.isEmpty_iff, List.drop_eq_nil_iff]
  refine or_congr_right ?_
  cases route <;> simp [surplus?]

/-- A structure is read from a tree exactly if each of its fields is read from its slot. -/
theorem Record.decode_eq_ok {record : Record α} {v : Value} {a : α} :
    record.decode route v = .ok a ↔
      ∃ slots, v.slots? route record.names = some slots ∧ record.Reads route slots a := by
  obtain ⟨name, fields, build, parts, build_parts, parts_build⟩ := record
  simp only [Record.names, Record.Reads]
  have hbuild : ∀ {row}, build row = a ↔ row = parts a := fun {row} =>
    ⟨fun h => by rw [← h, parts_build], fun h => by rw [h, build_parts]⟩
  cases v with
  | object entries =>
    simp only [Value.slots?, Option.some.injEq, exists_eq_left', ← Fields.decodeEntries_eq_ok, Record.decode]
    cases fields.decodeEntries route entries with
    | ok row => simp [hbuild]
    | error faults => simp
  | list items =>
    -- all elements are used up, or what is left is not counted as surplus
    have hend := isEmpty_drop_or_surplus route fields.names.length items
    rw [Fields.length_names] at hend
    simp only [Record.decode, Value.slots?, bind_eq_ok]
    constructor
    · rintro ⟨⟨row, rest⟩, hrow, h⟩
      obtain ⟨hreads, rfl⟩ := Fields.decodeItems_eq_ok.1 hrow
      rw [Fields.length_names] at h ⊢
      split at h
      · rename_i hempty
        rw [if_pos (hend.1 (Or.inl hempty)), ← hbuild.1 (Except.ok.inj h)]
        exact ⟨_, rfl, hreads⟩
      · split at h
        · cases h
        · rename_i hsurplus
          rw [if_pos (hend.1 (Or.inr hsurplus)), ← hbuild.1 (Except.ok.inj h)]
          exact ⟨_, rfl, hreads⟩
    · rintro ⟨slots, hslots, hreads⟩
      rw [Fields.length_names] at hslots
      split at hslots
      · rename_i hcount
        cases hslots
        refine ⟨(parts a, items.drop fields.names.length), Fields.decodeItems_eq_ok.2 ⟨hreads, rfl⟩, ?_⟩
        rw [Fields.length_names, build_parts]
        rcases hend.2 hcount with h | h
        · simp only [h, if_true]
        · simp only [h, ite_self]
      · cases hslots
  | _ => simp [Record.decode, Value.slots?]

/-- A structure that is a mapping is read from the values under the names of its fields. -/
theorem Record.decode_object_eq_ok {record : Record α} {entries : List (String × Value)} {a : α} :
    record.decode route (.object entries) = .ok a ↔
      record.Reads route (record.names.map fun name => entries.lookup name) a := by
  rw [Record.decode_eq_ok]
  simp only [Value.slots?, Option.some.injEq, exists_eq_left']

theorem Schema.decode_list_eq_ok {element : Schema α} {v : Value} {as : List α} :
    (Schema.list element).decode route v = .ok as ↔
      ∃ items, v = .list items ∧ List.Forall₂ (fun item a => element.decode route item = .ok a) items as := by
  cases v with
  | list items => simp [Schema.decode, mapM_eq_ok]
  | _ => simp [Schema.decode]

private theorem member_eq_ok {variants : Variants σ} {build : σ → α} {a : α} {s : σ}
    (hbuild : ∀ {other}, build other = a ↔ other = s) (tag content : Value) :
    ((match tag with
      | .string name =>
        match variants.decode? name content with
        | some result => result.map build
        | none => throw (.unknownVariant name variants.tags)
      | tag => throw (.wrongType tag "variant identifier")) : Except Mismatch α) = .ok a ↔
      ∃ name, tag = .string name ∧ variants.decode? name content = some (.ok s) := by
  cases tag with
  | string name =>
    cases hname : variants.decode? name content with
    | none => simp [hname, throw, throwThe, MonadExceptOf.throw]
    | some result => simp [hname, map_eq_ok, hbuild]
  | _ => simp [throw, throwThe, MonadExceptOf.throw]

/-- A tagged value is the member of the family that its tag names, read from what is left without the tag. -/
theorem Schema.decode_tagged_eq_ok {name : String} {variants : Variants σ} {build : σ → α} {parts : α → σ}
    {build_parts : ∀ a, build (parts a) = a} {parts_build : ∀ s, parts (build s) = s} {v : Value} {a : α} :
    (Schema.tagged name variants build parts build_parts parts_build).decode route v = .ok a ↔
      ∃ tag content, v.tagged? = some (.string tag, content) ∧
        variants.decode? tag content = some (.ok (parts a)) := by
  have hbuild : ∀ {s}, build s = a ↔ s = parts a := fun {s} =>
    ⟨fun h => by rw [← h, parts_build], fun h => by rw [h, build_parts]⟩
  cases v with
  | object entries =>
    simp only [Schema.decode, Value.tagged?]
    cases entries.lookup tagField with
    | none => simp [throw, throwThe, MonadExceptOf.throw, bind, Except.bind]
    | some tag =>
      simp only [pure_bind]
      refine (member_eq_ok hbuild tag _).trans ?_
      simp [and_assoc]
  | list items =>
    cases items with
    | nil => simp [Schema.decode, Value.tagged?, throw, throwThe, MonadExceptOf.throw, bind, Except.bind]
    | cons tag items =>
      simp only [Schema.decode, Value.tagged?, pure_bind]
      refine (member_eq_ok hbuild tag _).trans ?_
      simp [and_assoc]
  | _ => simp [Schema.decode, Value.tagged?, throw, throwThe, MonadExceptOf.throw, bind, Except.bind]

theorem Variants.decode?_inl_eq_ok {tag : String} {aliases : List String} {record : Record α} {rest : Variants σ}
    {name : String} {content : Value} {a : α} :
    (Variants.cons tag aliases record rest).decode? name content = some (.ok (.inl a)) ↔
      (name = tag ∨ name ∈ aliases) ∧ record.decode .buffered content = .ok a := by
  simp only [Variants.decode?]
  split
  · rename_i h
    simp [h, map_eq_ok]
  · rename_i h
    cases rest.decode? name content with
    | none => simp [h]
    | some result => simp [h, map_eq_ok]

theorem Variants.decode?_inr_eq_ok {tag : String} {aliases : List String} {record : Record α} {rest : Variants σ}
    {name : String} {content : Value} {s : σ} :
    (Variants.cons tag aliases record rest).decode? name content = some (.ok (.inr s)) ↔
      ¬(name = tag ∨ name ∈ aliases) ∧ rest.decode? name content = some (.ok s) := by
  simp only [Variants.decode?]
  split
  · rename_i h
    simp [h, map_eq_ok]
  · rename_i h
    cases rest.decode? name content with
    | none => simp
    | some result => simp [h, map_eq_ok]

end FlowCheck
