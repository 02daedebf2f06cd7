import FlowCheck.Schema.Basic

/-!
# Writing typed values as trees

`Schema.encode` writes structures as mappings in declaration order, with the tag of a tagged value first, and always
with the names that are written rather than the aliases that are only read.
-/

namespace FlowCheck

mutual

/-- The tree that stands for a value. -/
def Schema.encode : {α : Type} → Schema α → α → Value
  | _, .string, s => .string s
  | _, .bool, b => .bool b
  | _, .unsigned w, n => .int (.ofNat (w.natOf n) (w.natOf_lt_wide n))
  | _, .number, x => .float x
  | _, .date, t => .string t.text
  | _, .texts, entries => .object (entries.map fun entry => (entry.1, .string entry.2))
  | _, .free, v => v
  | _, .choice choices, a => .string (choices.name a)
  | _, .list element, as => .list (as.map element.encode)
  | _, .record record, a => .object (record.encodeEntries a)
  | _, .tagged _ variants _ parts _ _, a => .object (variants.encodeEntries (parts a))

/-- The entries of the mapping that stands for a structure. -/
def Record.encodeEntries : {α : Type} → Record α → α → List (String × Value)
  | _, .of _ fields _ parts _ _, a => fields.encodeEntries (parts a)

def Field.encodeEntry : {α : Type} → Field α → α → List (String × Value)
  | _, .required name schema, a => [(name, schema.encode a)]
  | _, .optional _ _, none => []
  | _, .optional name schema, some a => [(name, schema.encode a)]
  | _, .defaulted name schema _ omitted _, a => if omitted a then [] else [(name, schema.encode a)]

def Fields.encodeEntries : {ρ : Type} → Fields ρ → ρ → List (String × Value)
  | _, .nil, _ => []
  | _, .cons field rest, (a, row) => field.encodeEntry a ++ rest.encodeEntries row

def Variants.encodeEntries : {σ : Type} → Variants σ → σ → List (String × Value)
  | _, .cons tag _ record _, .inl a => (tagField, .string tag) :: record.encodeEntries a
  | _, .cons _ _ _ rest, .inr s => rest.encodeEntries s

end

/-- The tag that a tagged value is written with. -/
def Variants.tagOf : {σ : Type} → Variants σ → σ → String
  | _, .cons tag _ _ _, .inl _ => tag
  | _, .cons _ _ _ rest, .inr s => rest.tagOf s

end FlowCheck
