import FlowCheck.Instant
import FlowCheck.Proofs.Entries
import FlowCheck.Schema.Basic
import Mathlib.Algebra.Ring.Int.Defs

/-!
# Shapes of documents

A `Shape` says what a tree may look like, without the types that it is read as: the words of a grammar of documents.
`Conforms` is what the grammar asks of a tree.  Fields that a structure does not know are ignored, and null may stand
for an optional field only.

The readers also take structures as lists and choices as mappings.  A tree is `Odd` if it has such a form at a place
that the grammar knows; the grammar does not speak of odd trees.

For a mapping, both are matters of its fields one by one (`conforms_mapping`, `odd_mapping`), so the field that
holds the tag of a member makes no difference for the member (`conforms_filter_tag`, `odd_filter_tag`).
-/

namespace FlowCheck

/-- What a structure asks of a field. -/
inductive Presence where
  | required
  /-- The field may be absent or null. -/
  | optional
  /-- The field may be absent. -/
  | defaulted
  deriving DecidableEq

/-- What a tree may look like. -/
inductive Shape where
  | text
  | flag
  /-- An integer of so many bits, without a sign. -/
  | natural (bits : Nat)
  | number
  | date
  /-- A mapping from any names to texts. -/
  | texts
  | anything
  | oneOf (names : List String)
  | list (element : Shape)
  /-- A structure by its fields. -/
  | mapping (fields : List (String × Presence × Shape))
  /-- A family of structures, each with its tags, told apart by the field `type`. -/
  | family (members : List (List String × List (String × Presence × Shape)))

/-- The fields of a structure. -/
abbrev FieldShapes := List (String × Presence × Shape)

/-- The members of a family. -/
abbrev MemberShapes := List (List String × FieldShapes)

/-- The fields of the member with a tag. -/
def MemberShapes.find? (members : MemberShapes) (tag : String) : Option FieldShapes :=
  (List.find? (fun member => member.1.contains tag) members).map (·.2)

/-- The tree is what the shape says. -/
inductive Conforms : Shape → Value → Prop
  | text (s : String) : Conforms .text (.string s)
  | flag (b : Bool) : Conforms .flag (.bool b)
  | natural {bits : Nat} {n : WideInt} (hn : 0 ≤ n.val ∧ n.val < 2 ^ bits) : Conforms (.natural bits) (.int n)
  | integer (n : WideInt) : Conforms .number (.int n)
  | float (x : Double) : Conforms .number (.float x)
  | date {s : String} {t : Instant} (ht : Instant.read s = .ok t) : Conforms .date (.string s)
  | texts {entries : List (String × Value)} (h : ∀ entry ∈ entries, ∃ s, entry.2 = .string s) :
      Conforms .texts (.object entries)
  | anything (v : Value) : Conforms .anything v
  | oneOf {names : List String} {name : String} (h : name ∈ names) : Conforms (.oneOf names) (.string name)
  | list {element : Shape} {items : List Value} (h : ∀ item ∈ items, Conforms element item) :
      Conforms (.list element) (.list items)
  /-- Only the fields that the structure knows are looked at. -/
  | mapping {fields : FieldShapes} {entries : List (String × Value)}
      (hrequired : ∀ name shape, (name, .required, shape) ∈ fields → entries.lookup name ≠ none)
      (hpresent : ∀ name presence shape v, (name, presence, shape) ∈ fields → entries.lookup name = some v →
        ¬(v = .null ∧ presence = .optional) → Conforms shape v) :
      Conforms (.mapping fields) (.object entries)
  | family {members : MemberShapes} {entries : List (String × Value)} {tag : String} {fields : FieldShapes}
      (htag : entries.lookup tagField = some (.string tag)) (hmember : members.find? tag = some fields)
      (h : Conforms (.mapping fields) (.object entries)) :
      Conforms (.family members) (.object entries)

/-- Somewhere a structure is written as a list, or a choice as a mapping. -/
inductive Odd : Shape → Value → Prop
  | mappingAsList (fields : FieldShapes) (items : List Value) : Odd (.mapping fields) (.list items)
  | familyAsList (members : MemberShapes) (items : List Value) : Odd (.family members) (.list items)
  | choiceAsMapping (names : List String) (entries : List (String × Value)) : Odd (.oneOf names) (.object entries)
  | element {element : Shape} {items : List Value} {item : Value} (hitem : item ∈ items) (h : Odd element item) :
      Odd (.list element) (.list items)
  | field {fields : FieldShapes} {entries : List (String × Value)} {name : String} {presence : Presence}
      {shape : Shape} {v : Value} (hfield : (name, presence, shape) ∈ fields) (hv : entries.lookup name = some v)
      (h : Odd shape v) : Odd (.mapping fields) (.object entries)
  | member {members : MemberShapes} {entries : List (String × Value)} {tag : String} {fields : FieldShapes}
      (htag : entries.lookup tagField = some (.string tag)) (hmember : members.find? tag = some fields)
      (h : Odd (.mapping fields) (.object entries)) : Odd (.family members) (.object entries)

/-! ### Mappings field by field -/

/-- What a structure asks of what stands in the place of a field. -/
def Admits (presence : Presence) (shape : Shape) (slot : Option Value) : Prop :=
  (presence = .required → slot ≠ none) ∧
    ∀ v, slot = some v → ¬(v = .null ∧ presence = .optional) → Conforms shape v

variable {fields : FieldShapes} {entries : List (String × Value)}

theorem conforms_mapping :
    Conforms (.mapping fields) (.object entries) ↔
      ∀ field ∈ fields, Admits field.2.1 field.2.2 (entries.lookup field.1) := by
  constructor
  · intro h
    cases h with
    | mapping hrequired hpresent =>
      rintro ⟨name, presence, shape⟩ hfield
      refine ⟨?_, fun v hv => hpresent name presence shape v hfield hv⟩
      rintro rfl
      exact hrequired name shape hfield
  · intro h
    exact .mapping (fun name shape hfield => (h _ hfield).1 rfl) fun name presence shape v hfield => (h _ hfield).2 v

theorem odd_mapping :
    Odd (.mapping fields) (.object entries) ↔
      ∃ field ∈ fields, ∃ v, entries.lookup field.1 = some v ∧ Odd field.2.2 v := by
  constructor
  · intro h
    cases h with
    | field hfield hv h => exact ⟨_, hfield, _, hv, h⟩
  · rintro ⟨⟨name, presence, shape⟩, hfield, v, hv, h⟩
    exact .field hfield hv h

/-! ### Looking for odd forms -/

theorem not_odd_mapping_nil : ¬Odd (.mapping []) (.object entries) := by
  simp [odd_mapping]

theorem odd_mapping_cons {name : String} {presence : Presence} {shape : Shape} :
    Odd (.mapping ((name, presence, shape) :: fields)) (.object entries) ↔
      (∃ v, entries.lookup name = some v ∧ Odd shape v) ∨ Odd (.mapping fields) (.object entries) := by
  simp [odd_mapping]

theorem odd_list {element : Shape} {items : List Value} :
    Odd (.list element) (.list items) ↔ ∃ item ∈ items, Odd element item := by
  constructor
  · intro h
    cases h with
    | element hitem h => exact ⟨_, hitem, h⟩
  · rintro ⟨item, hitem, h⟩
    exact .element hitem h

theorem odd_family {members : MemberShapes} :
    Odd (.family members) (.object entries) ↔
      ∃ tag, entries.lookup tagField = some (.string tag) ∧
        ∃ fields, members.find? tag = some fields ∧ Odd (.mapping fields) (.object entries) := by
  constructor
  · intro h
    cases h with
    | member htag hmember h => exact ⟨_, htag, _, hmember, h⟩
  · rintro ⟨tag, htag, fields, hmember, h⟩
    exact .member htag hmember h

/-- Only lists and mappings are odd. -/
theorem not_odd_string {shape : Shape} {s : String} : ¬Odd shape (.string s) := nofun

theorem not_odd_int {shape : Shape} {n : WideInt} : ¬Odd shape (.int n) := nofun

theorem not_odd_null {shape : Shape} : ¬Odd shape .null := nofun

section Tag

variable (htag : tagField ∉ fields.map (·.1))

include htag

private theorem lookup_filter_tag {field : String × Presence × Shape} (hfield : field ∈ fields) :
    (entries.filter (·.1 != tagField)).lookup field.1 = entries.lookup field.1 := by
  have hne : field.1 ≠ tagField := fun heq => htag (heq ▸ List.mem_map_of_mem hfield)
  exact Entries.lookup_filter_ne hne entries

/-- Taking the tag out makes no difference for a structure without a field of that name. -/
theorem conforms_filter_tag :
    Conforms (.mapping fields) (.object (entries.filter (·.1 != tagField))) ↔
      Conforms (.mapping fields) (.object entries) := by
  rw [conforms_mapping, conforms_mapping]
  refine forall₂_congr fun field hfield => ?_
  rw [lookup_filter_tag htag hfield]

theorem odd_filter_tag :
    Odd (.mapping fields) (.object (entries.filter (·.1 != tagField))) ↔ Odd (.mapping fields) (.object entries) := by
  rw [odd_mapping, odd_mapping]
  refine exists_congr fun field => and_congr_right fun hfield => ?_
  rw [lookup_filter_tag htag hfield]

end Tag

end FlowCheck
