import FlowCheck.Proofs.Grammar.Conformance
import Mathlib.Data.List.Nodup

/-!
# Fields that are not known

A tree *widens* another one if it has one more field, at a mapping that a shape takes for a structure or for the
member of a family, with a name that is not one of its fields (`Widens`).  The mapping may lie at any depth,
also inside a structure that is written as a list.

What stands in the places of the fields is the same, or is widened itself (`Widens.structuresAlike`,
`Widens.tagged?_alike`).  So by recursion on the schema, both trees are read as the same value
(`Schema.decode_iff_of_widens`).
-/

namespace FlowCheck

variable {α : Type} {route : Route} {shape : Shape} {fields : FieldShapes} {members : MemberShapes} {v w : Value}

/-! ### Wider trees -/

/-- The fields of the member whose tag the tree gives; none if it gives no tag, or one that is not known. -/
def MemberShapes.fieldsOf (members : MemberShapes) (v : Value) : FieldShapes :=
  match v.tagged? with
  | some (.string tag, _) => (members.find? tag).getD []
  | _ => []

/-- The fields that a structure or a family knows in a tree; the tag of a family comes first. -/
def Shape.known? : Shape → Value → Option FieldShapes
  | .mapping fields, _ => some fields
  | .family members, v => some ((tagField, .required, .text) :: MemberShapes.fieldsOf members v)
  | _, _ => none

/-- The second tree is the first one with one more field, at a mapping that knows no field of that name. -/
inductive Widens : Shape → Value → Value → Prop
  | unknown {shape : Shape} {entries : List (String × Value)} {fields : FieldShapes} {key : String}
      (hknown : shape.known? (.object entries) = some fields) (hkey : key ∉ fields.map (·.1)) (extra : Value) :
      Widens shape (.object entries) (.object (Entries.insert key extra entries))
  | field {shape : Shape} {entries : List (String × Value)} {fields : FieldShapes} {field : String × Presence × Shape}
      {v w : Value} (hknown : shape.known? (.object entries) = some fields) (hfield : field ∈ fields)
      (hv : entries.lookup field.1 = some v) (h : Widens field.2.2 v w) :
      Widens shape (.object entries) (.object (Entries.insert field.1 w entries))
  /-- The structure, or the member after its tag, is the list of its fields. -/
  | item {shape : Shape} {items : List Value} {fields : FieldShapes} {i : Nat} {field : String × Presence × Shape}
      {v w : Value} (hknown : shape.known? (.list items) = some fields) (hfield : fields[i]? = some field)
      (hv : items[i]? = some v) (h : Widens field.2.2 v w) :
      Widens shape (.list items) (.list (items.set i w))
  | element {element : Shape} {items : List Value} {i : Nat} {v w : Value} (hv : items[i]? = some v)
      (h : Widens element v w) : Widens (.list element) (.list items) (.list (items.set i w))

/-- Neither a list nor a structure. -/
def Shape.Plain : Shape → Prop
  | .list _ | .mapping _ | .family _ => False
  | _ => True

theorem not_widens_of_plain (hplain : shape.Plain) : ¬Widens shape v w := by
  intro h
  cases h with
  | unknown hknown | field hknown | item hknown => cases shape <;> first | exact hplain | cases hknown
  | element => exact hplain

theorem Widens.ne_null (h : Widens shape v w) : v ≠ .null ∧ w ≠ .null := by
  cases h <;> exact ⟨nofun, nofun⟩

/-! ### What stands in the places of the fields -/

/-- The same stands in both places, or the one in the second is wider. -/
def Alike (shape : Shape) (slot slot' : Option Value) : Prop :=
  slot = slot' ∨ ∃ v w, slot = some v ∧ slot' = some w ∧ Widens shape v w

def SlotsAlike : FieldShapes → List (Option Value) → List (Option Value) → Prop
  | field :: fields, slot :: slots, slot' :: slots' => Alike field.2.2 slot slot' ∧ SlotsAlike fields slots slots'
  | _, slots, slots' => slots = slots'

/-- Both trees can be a structure with these fields, with alike slots, or none of them can. -/
def StructuresAlike (fields : FieldShapes) (v w : Value) : Prop :=
  ∀ route, Option.Rel (SlotsAlike fields) (v.slots? route (fields.map (·.1))) (w.slots? route (fields.map (·.1)))

theorem SlotsAlike.refl : (fields : FieldShapes) → (slots : List (Option Value)) → SlotsAlike fields slots slots
  | [], _ => rfl
  | _ :: _, [] => rfl
  | _ :: fields, _ :: slots => ⟨.inl rfl, SlotsAlike.refl fields slots⟩

/-- In a place for a plain tree stands the same. -/
theorem Alike.eq_of_plain {slot slot' : Option Value} (h : Alike shape slot slot') (hplain : shape.Plain) :
    slot = slot' := by
  rcases h with heq | ⟨v, w, -, -, hwidens⟩
  · exact heq
  · exact absurd hwidens (not_widens_of_plain hplain)

theorem structuresAlike_object {entries entries' : List (String × Value)}
    (h : ∀ field ∈ fields, Alike field.2.2 (entries.lookup field.1) (entries'.lookup field.1)) :
    StructuresAlike fields (.object entries) (.object entries') := by
  refine fun _ => .some ?_
  induction fields with
  | nil => rfl
  | cons field fields ih =>
    rw [List.forall_mem_cons] at h
    exact ⟨h.1, ih h.2⟩

theorem slotsAlike_set {items : List Value} {i : Nat} {field : String × Presence × Shape}
    (hfield : fields[i]? = some field) (hv : items[i]? = some v) (h : Widens field.2.2 v w) :
    SlotsAlike fields (Value.itemSlots (fields.map (·.1)) items)
      (Value.itemSlots (fields.map (·.1)) (items.set i w)) := by
  induction fields generalizing items i with
  | nil => rfl
  | cons first fields ih =>
    cases items with
    | nil => cases hv
    | cons item items =>
      cases i with
      | zero =>
        cases hfield
        cases hv
        exact ⟨.inr ⟨v, w, rfl, rfl, h⟩, SlotsAlike.refl fields _⟩
      | succ i => exact ⟨.inl rfl, ih hfield hv⟩

theorem structuresAlike_list {items : List Value} {i : Nat} {field : String × Presence × Shape}
    (hfield : fields[i]? = some field) (hv : items[i]? = some v) (h : Widens field.2.2 v w) :
    StructuresAlike fields (.list items) (.list (items.set i w)) := by
  intro route
  rw [Value.slots?, Value.slots?, List.length_set]
  split
  · exact .some (slotsAlike_set hfield hv h)
  · exact .none

/-! ### The slots of wider trees -/

/-- The fields that a mapping knows are alike in a wider one. -/
theorem Widens.lookup_alike {entries : List (String × Value)} (h : Widens shape (.object entries) w)
    (hknown : shape.known? (.object entries) = some fields) (hnodup : (fields.map (·.1)).Nodup) :
    ∃ entries', w = .object entries' ∧
      ∀ field ∈ fields, Alike field.2.2 (entries.lookup field.1) (entries'.lookup field.1) := by
  cases h with
  | @unknown _ _ _ key hknown' hkey extra =>
    cases hknown.symm.trans hknown'
    refine ⟨_, rfl, fun field hfield => .inl ?_⟩
    have hne : field.1 ≠ key := fun heq => hkey (heq ▸ List.mem_map_of_mem hfield)
    exact (Entries.lookup_insert_of_ne hne extra entries).symm
  | @field _ _ _ changed v w hknown' hchanged hv h =>
    cases hknown.symm.trans hknown'
    refine ⟨_, rfl, fun field hfield => ?_⟩
    by_cases hname : field.1 = changed.1
    · obtain rfl : field = changed := List.inj_on_of_nodup_map hnodup hfield hchanged hname
      exact .inr ⟨v, w, hv, Entries.lookup_insert_self _ w entries, h⟩
    · exact .inl (Entries.lookup_insert_of_ne hname w entries).symm

theorem Widens.item_of_list {items : List Value} (h : Widens shape (.list items) w)
    (hknown : shape.known? (.list items) = some fields) :
    ∃ i field v v', fields[i]? = some field ∧ items[i]? = some v ∧ Widens field.2.2 v v' ∧
      w = .list (items.set i v') := by
  cases h with
  | @item _ _ _ i field v v' hknown' hfield hv h =>
    cases hknown.symm.trans hknown'
    exact ⟨i, field, v, v', hfield, hv, h, rfl⟩
  | element => cases hknown

theorem Widens.structuresAlike (h : Widens (.mapping fields) v w) (hnodup : (fields.map (·.1)).Nodup) :
    StructuresAlike fields v w := by
  cases v with
  | object entries =>
    obtain ⟨entries', rfl, halike⟩ := h.lookup_alike rfl hnodup
    exact structuresAlike_object halike
  | list items =>
    obtain ⟨i, field, v, v', hfield, hv, hwidens, rfl⟩ := h.item_of_list rfl
    exact structuresAlike_list hfield hv hwidens
  | _ => cases h

/-- Names tell the fields of a member apart, and none is that of the tag. -/
def MemberShapes.Lawful (members : MemberShapes) : Prop :=
  ∀ tag fields, members.find? tag = some fields → tagField ∉ fields.map (·.1) ∧ (fields.map (·.1)).Nodup

theorem Variants.lawful_shapes : {σ : Type} → (variants : Variants σ) → variants.Lawful → variants.shapes.Lawful
  | _, .nil, _ => nofun
  | _, .cons name aliases record rest, hl => by
    intro tag fields hfind
    rw [Variants.find?_shapes] at hfind
    split at hfind
    · cases hfind
      rw [record.map_fst_shapes]
      exact ⟨hl.2.1, Record.nodup_names hl.1⟩
    · exact Variants.lawful_shapes rest hl.2.2.2 tag fields hfind

/-- Names tell all fields apart that a family knows in a tree. -/
theorem MemberShapes.Lawful.nodup_known (hlawful : members.Lawful) (v : Value) :
    (((tagField, Presence.required, Shape.text) :: members.fieldsOf v).map (·.1)).Nodup := by
  rw [List.map_cons, List.nodup_cons, MemberShapes.fieldsOf]
  split
  · rename_i tag _ _
    cases hfind : members.find? tag with
    | none => exact ⟨List.not_mem_nil, .nil⟩
    | some fields => exact hlawful tag fields hfind
  · exact ⟨List.not_mem_nil, .nil⟩

/-- Wider trees give the same tag, and what is left without it is alike for the member with that tag. -/
theorem Widens.tagged?_alike (h : Widens (.family members) v w) (hlawful : members.Lawful) :
    Option.Rel (fun p q => p.1 = q.1 ∧
      ∀ tag fields, p.1 = .string tag → members.find? tag = some fields → StructuresAlike fields p.2 q.2)
      v.tagged? w.tagged? := by
  cases v with
  | object entries =>
    obtain ⟨entries', rfl, halike⟩ := h.lookup_alike rfl (hlawful.nodup_known _)
    rw [List.forall_mem_cons] at halike
    have htag : entries.lookup tagField = entries'.lookup tagField := halike.1.eq_of_plain trivial
    rw [Value.tagged?, Value.tagged?, ← htag]
    cases hlookup : entries.lookup tagField with
    | none => exact .none
    | some first =>
      refine .some ⟨rfl, ?_⟩
      rintro tag fields rfl hfind
      have hfields : members.fieldsOf (.object entries) = fields := by
        rw [MemberShapes.fieldsOf, Value.tagged?, hlookup]
        simp only [Option.map_some, hfind, Option.getD_some]
      refine structuresAlike_object fun field hfield => ?_
      have hne : field.1 ≠ tagField := fun heq => (hlawful tag fields hfind).1 (heq ▸ List.mem_map_of_mem hfield)
      rw [Entries.lookup_filter_ne hne, Entries.lookup_filter_ne hne]
      exact halike.2 field (hfields ▸ hfield)
  | list items =>
    obtain ⟨i, field, v, v', hfield, hv, hwidens, rfl⟩ := h.item_of_list rfl
    cases items with
    | nil => cases hv
    | cons first items =>
      cases i with
      | zero =>
        -- the tag itself is a text
        cases hfield
        exact absurd hwidens (not_widens_of_plain trivial)
      | succ i =>
        refine .some ⟨rfl, ?_⟩
        rintro tag fields rfl hfind
        have hfields : members.fieldsOf (.list (.string tag :: items)) = fields := by
          simp only [MemberShapes.fieldsOf, Value.tagged?, hfind, Option.getD_some]
        rw [List.getElem?_cons_succ, hfields] at hfield
        exact structuresAlike_list hfield hv hwidens
  | _ => cases h

/-! ### Reading wider trees -/

theorem forall₂_set_iff {β γ : Type} {r : β → γ → Prop} {as : List β} {cs : List γ} {i : Nat} {a b : β}
    (ha : as[i]? = some a) (h : ∀ c, r a c ↔ r b c) : List.Forall₂ r as cs ↔ List.Forall₂ r (as.set i b) cs := by
  induction as generalizing i cs with
  | nil => cases ha
  | cons first as ih =>
    cases i with
    | zero =>
      cases ha
      cases cs <;> simp [h]
    | succ i => cases cs <;> simp [ih ha]

mutual

/-- Wider trees are read as the same value. -/
theorem Schema.decode_iff_of_widens {route : Route} : {α : Type} → (schema : Schema α) → schema.Lawful →
    {v w : Value} → Widens schema.shape v w → {a : α} → (schema.decode route v = .ok a ↔ schema.decode route w = .ok a)
  | _, .string, _, _, _, h, _ | _, .bool, _, _, _, h, _ | _, .unsigned _, _, _, _, h, _ | _, .number, _, _, _, h, _
  | _, .date, _, _, _, h, _ | _, .texts, _, _, _, h, _ | _, .free, _, _, _, h, _ | _, .choice _, _, _, _, h, _ =>
    absurd h (not_widens_of_plain trivial)
  | _, .list element, hl, _, _, h, as => by
    cases h with
    | unknown hknown | field hknown | item hknown => cases hknown
    | @element _ items i v w hv h =>
      have hitem : ∀ a, element.decode route v = .ok a ↔ element.decode route w = .ok a :=
        fun a => Schema.decode_iff_of_widens element hl h
      simp only [Schema.decode_list_eq_ok, Value.list.injEq, exists_eq_left']
      exact forall₂_set_iff hv hitem
  | _, .record record, hl, _, _, h, _ => by
    have hnodup : (record.shapes.map (·.1)).Nodup := record.map_fst_shapes ▸ Record.nodup_names hl
    exact Record.decode_iff_of_alike record hl (h.structuresAlike hnodup)
  | _, .tagged _ variants _ parts _ _, hl, v, w, h, a => by
    have hrel := h.tagged?_alike (variants.lawful_shapes hl)
    rw [Schema.decode_tagged_eq_ok, Schema.decode_tagged_eq_ok]
    generalize v.tagged? = tagged at hrel ⊢
    generalize w.tagged? = tagged' at hrel ⊢
    cases hrel with
    | none => exact Iff.rfl
    | @some first second hrel =>
      obtain ⟨tag, content⟩ := first
      obtain ⟨tag', content'⟩ := second
      obtain ⟨rfl, halike⟩ : tag = tag' ∧ _ := hrel
      refine exists_congr fun name => ?_
      constructor
      · rintro ⟨_, heq, hmember⟩
        cases heq
        exact ⟨content', rfl,
          (Variants.decode?_iff_of_alike variants hl fun fields => halike name fields rfl).1 hmember⟩
      · rintro ⟨_, heq, hmember⟩
        cases heq
        exact ⟨content, rfl,
          (Variants.decode?_iff_of_alike variants hl fun fields => halike name fields rfl).2 hmember⟩

theorem Record.decode_iff_of_alike {route : Route} : {α : Type} → (record : Record α) → record.Lawful →
    {v w : Value} → StructuresAlike record.shapes v w → {a : α} →
    (record.decode route v = .ok a ↔ record.decode route w = .ok a)
  | _, .of name fields build parts build_parts parts_build, hl, v, w, h, a => by
    have hrel : Option.Rel (SlotsAlike fields.shapes) (v.slots? route fields.names) (w.slots? route fields.names) :=
      fields.map_fst_shapes ▸ h route
    simp only [Record.decode_eq_ok, Record.names, Record.Reads]
    generalize v.slots? route fields.names = slots at hrel ⊢
    generalize w.slots? route fields.names = slots' at hrel ⊢
    cases hrel with
    | none => exact Iff.rfl
    | some hrel =>
      simp only [Option.some.injEq, exists_eq_left']
      exact Fields.reads_iff_of_alike fields hl.2 hrel

theorem Field.read_iff_of_alike {route : Route} : {α : Type} → (field : Field α) → field.Lawful →
    {slot slot' : Option Value} → Alike field.shape slot slot' → {a : α} →
    (field.read route slot = .ok a ↔ field.read route slot' = .ok a)
  | _, _, _, _, _, .inl heq, _ => by rw [heq]
  | _, .required _ schema, hl, _, _, .inr ⟨v, w, hv, hw, h⟩, _ => by
    subst hv hw
    exact Schema.decode_iff_of_widens schema hl h
  | _, .optional _ schema, hl, _, _, .inr ⟨v, w, hv, hw, h⟩, a => by
    subst hv hw
    cases a with
    | none => simp [Field.read_optional_eq_ok_none, h.ne_null]
    | some a =>
      have hdecode : schema.decode route v = .ok a ↔ schema.decode route w = .ok a :=
        Schema.decode_iff_of_widens schema hl h
      simp [Field.read_optional_eq_ok_some, h.ne_null, hdecode]
  | _, .defaulted _ schema _ _ _, hl, _, _, .inr ⟨v, w, hv, hw, h⟩, _ => by
    subst hv hw
    exact Schema.decode_iff_of_widens schema hl.1 h

theorem Fields.reads_iff_of_alike {route : Route} : {ρ : Type} → (fields : Fields ρ) → fields.Lawful →
    {slots slots' : List (Option Value)} → SlotsAlike fields.shapes slots slots' → {row : ρ} →
    (fields.Reads route slots row ↔ fields.Reads route slots' row)
  | _, .nil, _, slots, slots', h, _ => by
    obtain rfl : slots = slots' := h
    rfl
  | _, .cons field rest, hl, [], slots', h, (_, _) => by
    obtain rfl : [] = slots' := h
    rfl
  | _, .cons field rest, hl, _ :: _, [], h, (_, _) => nomatch h
  | _, .cons field rest, hl, _ :: _, _ :: _, h, (_, _) =>
    and_congr (Field.read_iff_of_alike field hl.1 h.1) (Fields.reads_iff_of_alike rest hl.2 h.2)

theorem Variants.decode?_iff_of_alike : {σ : Type} → (variants : Variants σ) → variants.Lawful → {tag : String} →
    {v w : Value} → (∀ fields, variants.shapes.find? tag = some fields → StructuresAlike fields v w) → {s : σ} →
    (variants.decode? tag v = some (.ok s) ↔ variants.decode? tag w = some (.ok s))
  | _, .nil, _, _, _, _, _, _ => Iff.rfl
  | _, .cons name aliases record rest, hl, tag, _, _, h, .inl a => by
    rw [Variants.decode?_inl_eq_ok, Variants.decode?_inl_eq_ok]
    refine and_congr_right fun hname => Record.decode_iff_of_alike record hl.1 (h _ ?_)
    rw [Variants.find?_shapes, if_pos hname]
  | _, .cons name aliases record rest, hl, tag, _, _, h, .inr s => by
    rw [Variants.decode?_inr_eq_ok, Variants.decode?_inr_eq_ok]
    refine and_congr_right fun hname => Variants.decode?_iff_of_alike rest hl.2.2.2 fun fields hfind => h fields ?_
    rw [Variants.find?_shapes, if_neg hname, hfind]

end

end FlowCheck
