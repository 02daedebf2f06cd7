import FlowCheck.Decimal.Style
import FlowCheck.Entries
import FlowCheck.Text.Quoted

/-!
# Document trees

A `Value` is a document before it has a type: what a JSON or YAML text says.  Integers are those of 64 bits, signed or
not; every other number is a double, so `1` and `1.0` differ.  A mapping is a list of fields.  The readers build
mappings with strictly increasing keys (`ofFields`, `Sorted`), while a typed flow is written with its fields in
declaration order; `sortKeys` leads from the second form to the first.
-/

namespace FlowCheck

/-- An integer that fits 64 bits, with or without a sign. -/
structure WideInt where
  val : Int
  le_val : -0x8000000000000000 ≤ val
  val_lt : val < 0x10000000000000000
  deriving DecidableEq

namespace WideInt

def ofInt? (n : Int) : Option WideInt :=
  if h : -0x8000000000000000 ≤ n ∧ n < 0x10000000000000000 then some ⟨n, h.1, h.2⟩ else none

def ofNat (n : Nat) (h : n < 0x10000000000000000) : WideInt :=
  ⟨n, by omega, by omega⟩

theorem ofInt?_val (n : WideInt) : ofInt? n.val = some n :=
  dif_pos ⟨n.le_val, n.val_lt⟩

end WideInt

/-- A document tree. -/
inductive Value where
  | null
  | bool (b : Bool)
  | int (n : WideInt)
  | float (x : Double)
  | string (s : String)
  | list (items : List Value)
  | object (fields : List (String × Value))

namespace Value

instance : Inhabited Value := ⟨.null⟩

/-! ## Equality -/

mutual

/-- Equality of trees; mappings are compared with the order of their fields. -/
def same : Value → Value → Bool
  | .null, .null => true
  | .bool a, .bool b => a == b
  | .int a, .int b => decide (a = b)
  | .float a, .float b => decide (a = b)
  | .string a, .string b => decide (a = b)
  | .list a, .list b => sameItems a b
  | .object a, .object b => sameFields a b
  | _, _ => false

def sameItems : List Value → List Value → Bool
  | [], [] => true
  | a :: as, b :: bs => same a b && sameItems as bs
  | _, _ => false

def sameFields : List (String × Value) → List (String × Value) → Bool
  | [], [] => true
  | (j, a) :: as, (k, b) :: bs => decide (j = k) && same a b && sameFields as bs
  | _, _ => false

end

mutual

theorem same_iff : {a b : Value} → (same a b = true ↔ a = b)
  | .null, b => by cases b <;> simp [same]
  | .bool a, b => by cases b <;> simp [same]
  | .int a, b => by cases b <;> simp [same]
  | .float a, b => by cases b <;> simp [same]
  | .string a, b => by cases b <;> simp [same]
  | .list a, b => by
    cases b with
    | list b => simp [same, @sameItems_iff a b]
    | _ => simp [same]
  | .object a, b => by
    cases b with
    | object b => simp [same, @sameFields_iff a b]
    | _ => simp [same]

theorem sameItems_iff : {as bs : List Value} → (sameItems as bs = true ↔ as = bs)
  | [], bs => by cases bs <;> simp [sameItems]
  | a :: as, bs => by
    cases bs with
    | nil => simp [sameItems]
    | cons b bs => simp [sameItems, @same_iff a b, @sameItems_iff as bs]

theorem sameFields_iff : {as bs : List (String × Value)} → (sameFields as bs = true ↔ as = bs)
  | [], bs => by cases bs <;> simp [sameFields]
  | (j, a) :: as, bs => by
    cases bs with
    | nil => simp [sameFields]
    | cons b bs =>
      obtain ⟨k, b⟩ := b
      simp [sameFields, @same_iff a b, @sameFields_iff as bs]

end

instance : DecidableEq Value := fun a b =>
  decidable_of_iff (same a b = true) same_iff

/-! ## Looking at a tree -/

/-- The value of a field, if the tree is a mapping with that field. -/
def get? : Value → String → Option Value
  | .object fields, key => fields.lookup key
  | _, _ => none

def asString? : Value → Option String
  | .string s => some s
  | _ => none

def asList? : Value → Option (List Value)
  | .list items => some items
  | _ => none

def isNull : Value → Bool
  | .null => true
  | _ => false

/-- What the tree is, for a reader of the document. -/
def describe : Value → String
  | .null => "null"
  | .bool _ => "a boolean"
  | .int _ => "a number"
  | .float _ => "a number"
  | .string _ => "a string"
  | .list _ => "a list"
  | .object _ => "a mapping"

/-- What the tree is, in a message about a value of the wrong type; only scalars are shown themselves. -/
def shown (style : DecimalStyle) : Value → String
  | .null => "null"
  | .bool b => s!"boolean `{b}`"
  | .int n => s!"integer `{n.val}`"
  | .float x => s!"floating point `{style.text x}`"
  | .string s => "string " ++ Text.quoted s
  | .list _ => "sequence"
  | .object _ => "map"

mutual

/-- One for a scalar or an empty container, otherwise one more than the deepest child. -/
def depth : Value → Nat
  | .list items => 1 + depthItems items
  | .object fields => 1 + depthFields fields
  | _ => 1

def depthItems : List Value → Nat
  | [] => 0
  | v :: vs => max (depth v) (depthItems vs)

def depthFields : List (String × Value) → Nat
  | [] => 0
  | (_, v) :: fields => max (depth v) (depthFields fields)

end

/-! ## Sorted mappings -/

/-- The mapping with the given fields in the order of their keys; of two fields with one key, the later counts. -/
def ofFields (fields : List (String × Value)) : Value :=
  .object (Entries.ofList fields)

mutual

/-- The same tree with all mappings in the order of their keys. -/
def sortKeys : Value → Value
  | .list items => .list (sortKeysItems items)
  | .object fields => ofFields (sortKeysFields fields)
  | v => v

def sortKeysItems : List Value → List Value
  | [] => []
  | v :: vs => sortKeys v :: sortKeysItems vs

def sortKeysFields : List (String × Value) → List (String × Value)
  | [] => []
  | (k, v) :: fields => (k, sortKeys v) :: sortKeysFields fields

end

mutual

/-- All mappings of the tree have strictly increasing keys. -/
def Sorted : Value → Prop
  | .list items => SortedItems items
  | .object fields => fields.Pairwise (fun a b => a.1 < b.1) ∧ SortedFields fields
  | _ => True

def SortedItems : List Value → Prop
  | [] => True
  | v :: vs => Sorted v ∧ SortedItems vs

def SortedFields : List (String × Value) → Prop
  | [] => True
  | (_, v) :: fields => Sorted v ∧ SortedFields fields

end

end Value

end FlowCheck
