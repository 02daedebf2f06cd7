import FlowCheck.Proofs.Entries
import FlowCheck.Value.Basic

/-!
# Depth and order of document trees

The depth of a container is one more than a bound on its children (`depthItems_le_iff`, `depthFields_le_iff`).
Sorting the keys of a tree makes it no deeper (`depth_sortKeys_le`), leaves a sorted tree as it is
(`sortKeys_of_sorted`), and does not change what is found under a key when no key occurs twice
(`lookup_orderedFields`).
-/

namespace FlowCheck.Value

/-! ### Depth -/

theorem depth_pos (v : Value) : 0 < v.depth := by
  cases v <;> simp only [depth] <;> omega

theorem depthItems_le_iff {items : List Value} {n : Nat} :
    depthItems items ≤ n ↔ ∀ v ∈ items, v.depth ≤ n := by
  induction items with
  | nil => simp [depthItems]
  | cons v items ih => rw [depthItems, Nat.max_le, ih, List.forall_mem_cons]

theorem depthFields_le_iff {fields : List (String × Value)} {n : Nat} :
    depthFields fields ≤ n ↔ ∀ field ∈ fields, field.2.depth ≤ n := by
  induction fields with
  | nil => simp [depthFields]
  | cons field fields ih =>
    obtain ⟨k, v⟩ := field
    rw [depthFields, Nat.max_le, ih, List.forall_mem_cons]

theorem depth_le_depthItems {v : Value} {items : List Value} (h : v ∈ items) : v.depth ≤ depthItems items :=
  depthItems_le_iff.1 (Nat.le_refl _) v h

theorem depth_le_depthFields {field : String × Value} {fields : List (String × Value)} (h : field ∈ fields) :
    field.2.depth ≤ depthFields fields :=
  depthFields_le_iff.1 (Nat.le_refl _) field h

theorem depth_le_of_lookup {k : String} {v : Value} {fields : List (String × Value)} (h : fields.lookup k = some v) :
    v.depth ≤ depthFields fields :=
  depth_le_depthFields (Entries.mem_of_lookup h)

theorem depthFields_append (as bs : List (String × Value)) :
    depthFields (as ++ bs) = max (depthFields as) (depthFields bs) := by
  induction as with
  | nil => simp [depthFields]
  | cons a as ih => simp only [List.cons_append, depthFields, ih, Nat.max_assoc]

theorem depthFields_filter_le (p : String × Value → Bool) (fields : List (String × Value)) :
    depthFields (fields.filter p) ≤ depthFields fields :=
  depthFields_le_iff.2 fun _ h => depth_le_depthFields (List.mem_filter.1 h).1

/-! ### Sorting keys -/

theorem sortKeysItems_eq_map (items : List Value) : sortKeysItems items = items.map sortKeys := by
  induction items with
  | nil => rfl
  | cons v items ih => simp only [sortKeysItems, ih, List.map_cons]

theorem sortKeysFields_eq_map (fields : List (String × Value)) :
    sortKeysFields fields = fields.map fun field => (field.1, field.2.sortKeys) := by
  induction fields with
  | nil => rfl
  | cons field fields ih =>
    obtain ⟨k, v⟩ := field
    simp only [sortKeysFields, ih, List.map_cons]

/-- The fields of a mapping in the order of their keys, with their values sorted. -/
def orderedFields (fields : List (String × Value)) : List (String × Value) :=
  Entries.ofList (sortKeysFields fields)

theorem sortKeys_object (fields : List (String × Value)) :
    (object fields).sortKeys = object (orderedFields fields) := by
  simp only [sortKeys, ofFields, orderedFields]

theorem sortKeys_list (items : List Value) : (list items).sortKeys = list (items.map sortKeys) := by
  simp only [sortKeys, sortKeysItems_eq_map]

theorem sortKeys_ne_null {v : Value} (h : v ≠ null) : v.sortKeys ≠ null := by
  cases v with
  | null => exact absurd rfl h
  | _ => simp [sortKeys, ofFields]

/-- Sorting keeps what is found under each key. -/
theorem lookup_orderedFields {fields : List (String × Value)} (h : (fields.map (·.1)).Nodup) (k : String) :
    (orderedFields fields).lookup k = (fields.lookup k).map sortKeys := by
  have hkeys : ((sortKeysFields fields).map (·.1)).Nodup := by
    rw [sortKeysFields_eq_map, List.map_map]
    exact h
  rw [orderedFields, Entries.lookup_ofList hkeys, sortKeysFields_eq_map, Entries.lookup_map_snd]

mutual

theorem depth_sortKeys_le : (v : Value) → v.sortKeys.depth ≤ v.depth
  | .null | .bool _ | .int _ | .float _ | .string _ => Nat.le_of_eq (by simp only [sortKeys])
  | .list items => by
    simp only [sortKeys, depth]
    have := depthItems_sortKeysItems_le items
    omega
  | .object fields => by
    rw [sortKeys_object]
    simp only [depth]
    -- of two fields with one key, sorting keeps one
    have hsort : depthFields (orderedFields fields) ≤ depthFields (sortKeysFields fields) :=
      depthFields_le_iff.2 fun _ h => depth_le_depthFields (Entries.mem_of_mem_ofList h)
    have := depthFields_sortKeysFields_le fields
    omega

theorem depthItems_sortKeysItems_le : (items : List Value) → depthItems (sortKeysItems items) ≤ depthItems items
  | [] => Nat.le_refl _
  | v :: items => by
    simp only [sortKeysItems, depthItems]
    have := depth_sortKeys_le v
    have := depthItems_sortKeysItems_le items
    omega

theorem depthFields_sortKeysFields_le :
    (fields : List (String × Value)) → depthFields (sortKeysFields fields) ≤ depthFields fields
  | [] => Nat.le_refl _
  | (_, v) :: fields => by
    simp only [sortKeysFields, depthFields]
    have := depth_sortKeys_le v
    have := depthFields_sortKeysFields_le fields
    omega

end

/-! ### Sorted trees -/

mutual

theorem sortKeys_of_sorted : (v : Value) → v.Sorted → v.sortKeys = v
  | .null, _ | .bool _, _ | .int _, _ | .float _, _ | .string _, _ => by simp only [sortKeys]
  | .list items, h => by
    simp only [Sorted] at h
    simp only [sortKeys, sortKeysItems_of_sorted items h]
  | .object fields, h => by
    simp only [Sorted] at h
    rw [sortKeys_object, orderedFields, sortKeysFields_of_sorted fields h.2, Entries.ofList_of_pairwise h.1]

theorem sortKeysItems_of_sorted : (items : List Value) → SortedItems items → sortKeysItems items = items
  | [], _ => rfl
  | v :: items, h => by
    simp only [SortedItems] at h
    simp only [sortKeysItems, sortKeys_of_sorted v h.1, sortKeysItems_of_sorted items h.2]

theorem sortKeysFields_of_sorted :
    (fields : List (String × Value)) → SortedFields fields → sortKeysFields fields = fields
  | [], _ => rfl
  | (_, v) :: fields, h => by
    simp only [SortedFields] at h
    simp only [sortKeysFields, sortKeys_of_sorted v h.1, sortKeysFields_of_sorted fields h.2]

end

theorem sortedItems_iff {items : List Value} : SortedItems items ↔ ∀ v ∈ items, v.Sorted := by
  induction items with
  | nil => simp [SortedItems]
  | cons v items ih => simp [SortedItems, ih]

theorem sortedFields_iff {fields : List (String × Value)} :
    SortedFields fields ↔ ∀ field ∈ fields, field.2.Sorted := by
  induction fields with
  | nil => simp [SortedFields]
  | cons field fields ih =>
    obtain ⟨k, v⟩ := field
    simp [SortedFields, ih]

theorem Sorted.of_lookup {fields : List (String × Value)} (h : (object fields).Sorted) {k : String} {v : Value}
    (hk : fields.lookup k = some v) : v.Sorted := by
  simp only [Sorted] at h
  exact sortedFields_iff.1 h.2 (k, v) (Entries.mem_of_lookup hk)

theorem Sorted.filter {fields : List (String × Value)} (h : (object fields).Sorted) (p : String × Value → Bool) :
    (object (fields.filter p)).Sorted := by
  simp only [Sorted] at h ⊢
  exact ⟨h.1.filter p, sortedFields_iff.2 fun field hm => sortedFields_iff.1 h.2 field (List.mem_filter.1 hm).1⟩

theorem Sorted.of_mem {items : List Value} (h : (list items).Sorted) {v : Value} (hv : v ∈ items) : v.Sorted := by
  simp only [Sorted] at h
  exact sortedItems_iff.1 h v hv

mutual

/-- Sorting gives a sorted tree. -/
theorem sorted_sortKeys : (v : Value) → v.sortKeys.Sorted
  | .null | .bool _ | .int _ | .float _ | .string _ => by simp only [sortKeys, Sorted]
  | .list items => by
    simp only [sortKeys, Sorted]
    exact sortedItems_sortKeysItems items
  | .object fields => by
    rw [sortKeys_object]
    simp only [Sorted]
    refine ⟨Entries.pairwise_ofList _, sortedFields_iff.2 fun field hfield => ?_⟩
    exact sortedFields_iff.1 (sortedFields_sortKeysFields fields) field (Entries.mem_of_mem_ofList hfield)

theorem sortedItems_sortKeysItems : (items : List Value) → SortedItems (sortKeysItems items)
  | [] => trivial
  | v :: items => ⟨sorted_sortKeys v, sortedItems_sortKeysItems items⟩

theorem sortedFields_sortKeysFields : (fields : List (String × Value)) → SortedFields (sortKeysFields fields)
  | [] => trivial
  | (_, v) :: fields => ⟨sorted_sortKeys v, sortedFields_sortKeysFields fields⟩

end

end FlowCheck.Value
