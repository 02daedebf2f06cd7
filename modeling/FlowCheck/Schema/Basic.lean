import FlowCheck.Schema.Mismatch

/-!
# Schemas

A `Schema α` describes how values of the type `α` are written in a document: which trees stand for which values.  One
description serves the reader (`Schema.decode`), the writer (`Schema.encode`) and every statement about documents.

Structures are `Record`s: a row of `Fields` together with the passage between the row and the structure.  A tagged
family is a sum of records; the field `type` of the mapping says which of them it is.
-/

namespace FlowCheck

/-- The widths of unsigned integers. -/
inductive Width where
  | w16
  | w32
  | w64
  deriving DecidableEq

namespace Width

def bits : Width → Nat
  | w16 => 16
  | w32 => 32
  | w64 => 64

/-- The word type of a width. -/
abbrev Word : Width → Type
  | w16 => UInt16
  | w32 => UInt32
  | w64 => UInt64

/-- What messages call integers of the width. -/
def name (w : Width) : String :=
  s!"u{w.bits}"

def natOf : (w : Width) → w.Word → Nat
  | w16, n => UInt16.toNat n
  | w32, n => UInt32.toNat n
  | w64, n => UInt64.toNat n

def wordOf : (w : Width) → Nat → w.Word
  | w16, n => UInt16.ofNat n
  | w32, n => UInt32.ofNat n
  | w64, n => UInt64.ofNat n

/-- How many integers of the width there are. -/
def size : Width → Nat
  | w16 => 0x10000
  | w32 => 0x100000000
  | w64 => 0x10000000000000000

theorem natOf_lt (w : Width) (n : w.Word) : w.natOf n < w.size := by
  cases w with
  | w16 => exact UInt16.toNat_lt n
  | w32 => exact UInt32.toNat_lt n
  | w64 => exact UInt64.toNat_lt n

theorem natOf_lt_wide (w : Width) (n : w.Word) : w.natOf n < 0x10000000000000000 :=
  Nat.lt_of_lt_of_le (w.natOf_lt n) (by cases w <;> decide)

@[simp] theorem wordOf_natOf (w : Width) (n : w.Word) : w.wordOf (w.natOf n) = n := by
  cases w with
  | w16 => exact UInt16.ofNat_toNat
  | w32 => exact UInt32.ofNat_toNat
  | w64 => exact UInt64.ofNat_toNat

end Width

/-- Sorts texts by code points. -/
def sortTexts (names : List String) : List String :=
  names.mergeSort fun a b => !decide (b < a)

/-- The names of a finite choice.  Each value has one name that is written; its aliases are read as well. -/
structure Choices (α : Type) where
  values : List α
  name : α → String
  aliases : α → List String := fun _ => []
  find_name : ∀ a, values.find? (fun b => name b == name a || (aliases b).contains (name a)) = some a

/-- The value with a name. -/
def Choices.ofName? {α : Type} (choices : Choices α) (name : String) : Option α :=
  choices.values.find? fun a => choices.name a == name || (choices.aliases a).contains name

theorem Choices.ofName?_name {α : Type} (choices : Choices α) (a : α) :
    choices.ofName? (choices.name a) = some a :=
  choices.find_name a

/-- All names that are read: values in order of declaration, the names of each one sorted. -/
def Choices.names {α : Type} (choices : Choices α) : List String :=
  choices.values.flatMap fun a => sortTexts (choices.name a :: choices.aliases a)

mutual

/-- How values of a type are written in a document. -/
inductive Schema : Type → Type 1 where
  | string : Schema String
  | bool : Schema Bool
  | unsigned (width : Width) : Schema width.Word
  | number : Schema Double
  | date : Schema Instant
  /-- A mapping from any names to texts. -/
  | texts : Schema (List (String × String))
  /-- Any tree. -/
  | free : Schema Value
  | choice {α : Type} (choices : Choices α) : Schema α
  | list {α : Type} (element : Schema α) : Schema (List α)
  | record {α : Type} (record : Record α) : Schema α
  /-- A sum of records, told apart by the field `type`. -/
  | tagged {σ α : Type} (name : String) (variants : Variants σ) (build : σ → α) (parts : α → σ)
      (build_parts : ∀ a, build (parts a) = a) (parts_build : ∀ s, parts (build s) = s) : Schema α

/-- A structure, written as the mapping of its fields. -/
inductive Record : Type → Type 1 where
  | of {ρ α : Type} (name : String) (fields : Fields ρ) (build : ρ → α) (parts : α → ρ)
      (build_parts : ∀ a, build (parts a) = a) (parts_build : ∀ r, parts (build r) = r) : Record α

/-- One field of a structure. -/
inductive Field : Type → Type 1 where
  | required {α : Type} (name : String) (schema : Schema α) : Field α
  /-- Absent and null stand for `none`; `none` is not written. -/
  | optional {α : Type} (name : String) (schema : Schema α) : Field (Option α)
  /-- Absent stands for a default; values that `omit` accepts are not written. -/
  | defaulted {α : Type} (name : String) (schema : Schema α) (default : α) (omitted : α → Bool)
      (eq_default : ∀ a, omitted a = true → a = default) : Field α

/-- The fields of a structure in declaration order. -/
inductive Fields : Type → Type 1 where
  | nil : Fields Unit
  | cons {α ρ : Type} (field : Field α) (rest : Fields ρ) : Fields (α × ρ)

/-- The members of a tagged family in declaration order, each with its tag. -/
inductive Variants : Type → Type 1 where
  | nil : Variants Empty
  | cons {α σ : Type} (tag : String) (aliases : List String) (record : Record α) (rest : Variants σ) :
      Variants (α ⊕ σ)

end

namespace Field

/-- A field with a default that is always written. -/
abbrev withDefault {α : Type} (name : String) (schema : Schema α) (default : α) : Field α :=
  .defaulted name schema default (fun _ => false) (fun _ h => nomatch h)

def name {α : Type} : Field α → String
  | .required name _ => name
  | .optional name _ => name
  | .defaulted name _ _ _ _ => name

end Field

namespace Fields

def names : {ρ : Type} → Fields ρ → List String
  | _, .nil => []
  | _, .cons field rest => field.name :: rest.names

def count : {ρ : Type} → Fields ρ → Nat
  | _, .nil => 0
  | _, .cons _ rest => rest.count + 1

end Fields

namespace Variants

/-- All tags that are read: variants in order of declaration, the tags of each one sorted. -/
def tags : {σ : Type} → Variants σ → List String
  | _, .nil => []
  | _, .cons tag aliases _ rest => sortTexts (tag :: aliases) ++ rest.tags

end Variants

/-- The field that holds the tag of a tagged value. -/
def tagField : String := "type"

end FlowCheck
