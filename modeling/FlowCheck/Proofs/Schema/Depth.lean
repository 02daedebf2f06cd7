import FlowCheck.Proofs.Schema.RoundTrip

/-!
# How deep a written value is

Writing a value that was read can make its tree deeper only through the defaults that it writes out: a scalar, a
free tree and a name are no deeper than what they were read from, and a container grows with its children.
`addedDepth` bounds the depth of a written structure that consists of nothing but defaults, so that a written
tree is at most as deep as the tree it was read from or as `addedDepth` (`Schema.depth_encode_le`).
-/

namespace FlowCheck

variable {α ρ σ : Type} {route : Route}

/-- The depth of a container around defaults of a given depth; without defaults nothing is added. -/
def depthAround : Nat → Nat
  | 0 => 0
  | depth + 1 => depth + 2

mutual

/-- The depth up to which defaults that are written out can make a tree deeper. -/
def Schema.addedDepth : {α : Type} → Schema α → Nat
  | _, .string | _, .bool | _, .unsigned _ | _, .number | _, .date | _, .choice _ | _, .texts | _, .free => 0
  | _, .list element => depthAround element.addedDepth
  | _, .record record => record.addedDepth
  | _, .tagged _ variants _ _ _ _ => variants.addedDepth

def Record.addedDepth : {α : Type} → Record α → Nat
  | _, .of _ fields _ _ _ _ => depthAround fields.addedDepth

def Field.addedDepth : {α : Type} → Field α → Nat
  | _, .required _ schema => schema.addedDepth
  | _, .optional _ schema => schema.addedDepth
  | _, .defaulted _ schema default _ _ => max schema.addedDepth (schema.encode default).depth

def Fields.addedDepth : {ρ : Type} → Fields ρ → Nat
  | _, .nil => 0
  | _, .cons field rest => max field.addedDepth rest.addedDepth

def Variants.addedDepth : {σ : Type} → Variants σ → Nat
  | _, .nil => 0
  | _, .cons _ _ record rest => max record.addedDepth rest.addedDepth

end

private theorem around_le {children depth added : Nat} (h : children ≤ max depth added) :
    1 + children ≤ max (1 + depth) (depthAround added) := by
  cases added with
  | zero =>
    simp only [depthAround]
    omega
  | succ added =>
    simp only [depthAround]
    omega

/-- What stands in a slot is less deep than the structure. -/
theorem Value.depth_lt_of_slots {names : List String} {v : Value} {slots : List (Option Value)}
    (hslots : v.slots? route names = some slots) {w : Value} (hw : some w ∈ slots) : w.depth < v.depth := by
  cases v with
  | object entries =>
    cases hslots
    obtain ⟨name, -, hname⟩ := List.mem_map.1 hw
    have := Value.depth_le_of_lookup hname
    simp only [Value.depth]
    omega
  | list items =>
    simp only [Value.slots?] at hslots
    split at hslots
    · cases hslots
      have := Value.depth_le_depthItems (Value.mem_of_mem_itemSlots hw)
      simp only [Value.depth]
      omega
    · cases hslots
  | _ => cases hslots

/-- A tagged tree is at least a container around its tag, and no less deep than what is left without the tag. -/
theorem Value.depth_le_of_tagged {v tag content : Value} (h : v.tagged? = some (tag, content)) :
    1 + tag.depth ≤ v.depth ∧ content.depth ≤ v.depth := by
  cases v with
  | object entries =>
    simp only [Value.tagged?, Option.map_eq_some_iff, Prod.mk.injEq] at h
    obtain ⟨_, hlookup, rfl, rfl⟩ := h
    have := Value.depth_le_of_lookup hlookup
    have := Value.depthFields_filter_le (·.1 != tagField) entries
    simp only [Value.depth]
    omega
  | list items =>
    cases items with
    | nil => cases h
    | cons first items =>
      cases h
      simp only [Value.depth, Value.depthItems]
      omega
  | _ => cases h

mutual

/-- A value that was read is written no deeper than it was read, apart from defaults that are written out. -/
theorem Schema.depth_encode_le {route : Route} : {α : Type} → (schema : Schema α) → {v : Value} → {a : α} →
    schema.decode route v = .ok a → (schema.encode a).depth ≤ max v.depth schema.addedDepth
  | _, .string, v, _, _ | _, .bool, v, _, _ | _, .unsigned _, v, _, _ | _, .number, v, _, _ | _, .date, v, _, _
  | _, .choice _, v, _, _ => by
    have := v.depth_pos
    simp only [Schema.encode, Value.depth]
    omega
  | _, .texts, v, _, h => by
    cases v with
    | object entries =>
      obtain rfl := decodeTexts_eq_ok.1 h
      exact Nat.le_max_left _ _
    | _ => simp [Schema.decode] at h
  | _, .free, _, _, h => by
    cases h
    exact Nat.le_max_left _ _
  | _, .list element, _, as, h => by
    obtain ⟨items, rfl, hitems⟩ := Schema.decode_list_eq_ok.1 h
    simp only [Schema.encode, Value.depth]
    refine around_le (Value.depthItems_le_iff.2 ?_)
    intro w hw
    obtain ⟨a, ha, rfl⟩ := List.mem_map.1 hw
    obtain ⟨item, hitem, hdecode⟩ := exists_of_mem_right hitems ha
    have := Schema.depth_encode_le element hdecode
    have := Value.depth_le_depthItems hitem
    omega
  | _, .record record, _, _, h => Record.depth_encode_le record h
  | _, .tagged _ variants _ _ _ _, _, _, h => by
    obtain ⟨tag, content, ht, hmember⟩ := Schema.decode_tagged_eq_ok.1 h
    have hmember := Variants.depth_encode_le variants hmember
    have hcontent := Value.depth_le_of_tagged ht
    have htag : (Value.string tag).depth = 1 := by simp only [Value.depth]
    simp only [Schema.encode, Schema.addedDepth]
    omega

theorem Record.depth_encode_le {route : Route} : {α : Type} → (record : Record α) → {v : Value} → {a : α} →
    record.decode route v = .ok a → (Value.object (record.encodeEntries a)).depth ≤ max v.depth record.addedDepth
  | _, .of _ fields _ _ _ _, v, _, h => by
    obtain ⟨slots, hslots, hreads⟩ := Record.decode_eq_ok.1 h
    have hpos := v.depth_pos
    have hslot : ∀ w, some w ∈ slots → w.depth ≤ v.depth - 1 := fun _ hw =>
      Nat.le_sub_one_of_lt (Value.depth_lt_of_slots hslots hw)
    have := around_le (Fields.depth_encode_le fields hslot hreads)
    simp only [Value.depth, Record.encodeEntries, Record.addedDepth]
    omega

theorem Field.depth_encode_le {route : Route} : {α : Type} → (field : Field α) → {slot : Option Value} →
    {depth : Nat} → (∀ w, slot = some w → w.depth ≤ depth) → {a : α} → field.read route slot = .ok a →
    Value.depthFields (field.encodeEntry a) ≤ max depth field.addedDepth
  | _, .required _ schema, _, depth, hs, _, h => by
    obtain ⟨v, rfl, hdecode⟩ := Field.read_required_eq_ok.1 h
    have := Schema.depth_encode_le schema hdecode
    have := hs v rfl
    simp only [Field.encodeEntry, Value.depthFields, Field.addedDepth]
    omega
  | _, .optional _ _, _, _, _, none, _ => Nat.zero_le _
  | _, .optional _ schema, _, depth, hs, some _, h => by
    obtain ⟨v, rfl, -, hdecode⟩ := Field.read_optional_eq_ok_some.1 h
    have := Schema.depth_encode_le schema hdecode
    have := hs v rfl
    simp only [Field.encodeEntry, Value.depthFields, Field.addedDepth]
    omega
  | _, .defaulted _ schema default omitted _, _, depth, hs, a, h => by
    -- only here what is written may come from the schema alone
    have hwritten : (schema.encode a).depth ≤ max depth (max schema.addedDepth (schema.encode default).depth) := by
      rcases Field.read_defaulted_eq_ok.1 h with ⟨v, rfl, hdecode⟩ | ⟨-, rfl⟩
      · have := Schema.depth_encode_le schema hdecode
        have := hs v rfl
        omega
      · omega
    simp only [Field.encodeEntry, Field.addedDepth]
    split
    · exact Nat.zero_le _
    · simp only [Value.depthFields]
      omega

theorem Fields.depth_encode_le {route : Route} : {ρ : Type} → (fields : Fields ρ) → {slots : List (Option Value)} →
    {depth : Nat} → (∀ w, some w ∈ slots → w.depth ≤ depth) → {row : ρ} → fields.Reads route slots row →
    Value.depthFields (fields.encodeEntries row) ≤ max depth fields.addedDepth
  | _, .nil, _, _, _, _, _ => Nat.zero_le _
  | _, .cons field rest, _ :: _, depth, hs, (_, _), h => by
    have := Field.depth_encode_le field (fun w hw => hs w (hw ▸ List.mem_cons_self)) h.1
    have := Fields.depth_encode_le rest (fun w hw => hs w (List.mem_cons_of_mem _ hw)) h.2
    simp only [Fields.encodeEntries, Value.depthFields_append, Fields.addedDepth]
    omega

theorem Variants.depth_encode_le : {σ : Type} → (variants : Variants σ) → {name : String} → {content : Value} →
    {s : σ} → variants.decode? name content = some (.ok s) →
    (Value.object (variants.encodeEntries s)).depth ≤ max 2 (max content.depth variants.addedDepth)
  | _, .cons _ _ record _, _, content, .inl _, h => by
    have := Record.depth_encode_le record (Variants.decode?_inl_eq_ok.1 h).2
    simp only [Value.depth] at this
    simp only [Variants.encodeEntries, Value.depth, Value.depthFields, Variants.addedDepth]
    omega
  | _, .cons _ _ _ rest, _, content, .inr _, h => by
    have := Variants.depth_encode_le rest (Variants.decode?_inr_eq_ok.1 h).2
    simp only [Variants.encodeEntries, Variants.addedDepth]
    omega

end

end FlowCheck
