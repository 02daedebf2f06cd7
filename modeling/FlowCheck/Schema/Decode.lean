import FlowCheck.Schema.Basic

/-!
# Reading typed values from trees

`Schema.decode` gives the value that a tree stands for, or the mismatch that a reader meets first: mappings are
read in the order of their keys, then missing fields are found in declaration order (`FieldFaults.first`).

A structure may also be written as the list of its fields, a tagged value as a list that starts with its tag, and a
choice as a mapping from its name to nothing.  The members of a tagged family are read from a copy that the search for
the tag made (`Route.buffered`); this shows in two places only, where surplus elements of such a list and the value of
such a mapping are judged.  Configuration files judge these in their own way.
-/

namespace FlowCheck

/-- Where a tree is read from. -/
inductive Route where
  /-- A document. -/
  | direct
  /-- A copy of a part of a document, made while looking for a tag. -/
  | buffered
  /-- A configuration file. -/
  | configuration
  deriving DecidableEq

/-- The fields that keep a mapping from being a structure: at least one, in declaration order. -/
structure FieldFaults where
  name : String
  cause : Mismatch
  others : List (String × Mismatch)

namespace FieldFaults

def all (faults : FieldFaults) : List (String × Mismatch) :=
  (faults.name, faults.cause) :: faults.others

/-- The fault met first: a present field in the order of the mapping, otherwise a missing one in declaration order. -/
def first (faults : FieldFaults) (entries : List (String × Value)) : Mismatch :=
  (entries.findSome? fun entry => faults.all.lookup entry.1).getD faults.cause

end FieldFaults

namespace Choices

variable {α : Type}

def read (choices : Choices α) (name : String) : Except Mismatch α :=
  match choices.ofName? name with
  | some a => .ok a
  | none => .error (.unknownVariant name choices.names)

/-- A tree that carries no data beside the name of a choice. -/
def isUnit : Route → Value → Bool
  | .configuration, v => decide (v = .object [] ∨ v = .list [])
  | .buffered, v => decide (v = .null ∨ v = .object [])
  | .direct, v => v.isNull

def decode (choices : Choices α) (route : Route) : Value → Except Mismatch α
  | .string name => choices.read name
  | .object [(name, value)] => do
    let a ← choices.read name
    if isUnit route value then .ok a else .error (.wrongType value "unit")
  | .object entries => .error (.wrongValue (.object entries) "map with a single key")
  | v => .error (.wrongType v "string or map")

end Choices

namespace Width

def decode (w : Width) : Value → Except Mismatch w.Word
  | .int n =>
    if 0 ≤ n.val ∧ n.val < w.size then .ok (w.wordOf n.val.toNat) else .error (.wrongValue (.int n) w.name)
  | v => .error (.wrongType v w.name)

end Width

/-- The double nearest to an integer of 64 bits. -/
def WideInt.toDouble (n : WideInt) : Double :=
  (Double.ofInt? n.val).getD (.zero false)

/-- The entries of a mapping to texts. -/
def decodeTexts : List (String × Value) → Except Mismatch (List (String × String))
  | [] => .ok []
  | (key, .string s) :: rest => do return (key, s) :: (← decodeTexts rest)
  | (_, v) :: _ => .error (.wrongType v "a string")

/-- How many elements a structure with `count` fields has as a list. -/
def elements (count : Nat) : String :=
  if count = 1 then "1 element" else s!"{count} elements"

/-- The complaint about a list of `length` elements for a structure with `count` fields, if there is one. -/
def surplus? (route : Route) (count length : Nat) : Option Mismatch :=
  match route with
  | .direct => some (.wrongLength length "fewer elements in array")
  | .buffered => some (.wrongLength length (elements count ++ " in sequence"))
  | .configuration => none

mutual

/-- The value that a tree stands for. -/
def Schema.decode (route : Route) : {α : Type} → Schema α → Value → Except Mismatch α
  | _, .string, .string s => .ok s
  | _, .string, v => .error (.wrongType v "a string")
  | _, .bool, .bool b => .ok b
  | _, .bool, v => .error (.wrongType v "a boolean")
  | _, .unsigned w, v => w.decode v
  | _, .number, .float x => .ok x
  | _, .number, .int n => .ok n.toDouble
  | _, .number, v => .error (.wrongType v "f64")
  | _, .date, .string s => (Instant.read s).mapError .badDate
  | _, .date, v => .error (.wrongType v "an RFC 3339 formatted date and time string")
  | _, .texts, .object entries => decodeTexts entries
  | _, .texts, v => .error (.wrongType v "a map")
  | _, .free, v => .ok v
  | _, .choice choices, v => choices.decode route v
  | _, .list element, .list items => items.mapM (element.decode route)
  | _, .list _, v => .error (.wrongType v "a sequence")
  | _, .record record, v => record.decode route v
  | _, .tagged name variants build _ _ _, v => do
    let (tag, content) ← match v with
      | .object entries =>
        match entries.lookup tagField with
        | none => throw (.missingField tagField)
        | some tag => pure (tag, .object (entries.filter (·.1 != tagField)))
      | .list [] => throw (.missingField tagField)
      | .list (tag :: items) => pure (tag, .list items)
      | v => throw (.wrongType v s!"internally tagged enum {name}")
    match tag with
    | .string tag =>
      match variants.decode? tag content with
      | some result => result.map build
      | none => throw (.unknownVariant tag variants.tags)
    | tag => throw (.wrongType tag "variant identifier")

def Record.decode (route : Route) : {α : Type} → Record α → Value → Except Mismatch α
  | _, .of name fields build _ _ _, v =>
    match v with
    | .object entries =>
      match fields.decodeEntries route entries with
      | .ok row => .ok (build row)
      | .error faults => .error (faults.first entries)
    | .list items => do
      let (row, rest) ← fields.decodeItems route (s!"struct {name} with " ++ elements fields.count) 0 items
      if rest.isEmpty then .ok (build row)
      else
        match surplus? route fields.count items.length with
        | some mismatch => .error mismatch
        | none => .ok (build row)
    | v => .error (.wrongType v s!"struct {name}")

/-- The value of a field in a mapping. -/
def Field.decodeEntry (route : Route) : {α : Type} → Field α → List (String × Value) → Except Mismatch α
  | _, .required name schema, entries =>
    match entries.lookup name with
    | some v => schema.decode route v
    | none => .error (.missingField name)
  | _, .optional name schema, entries =>
    match entries.lookup name with
    | some .null => .ok none
    | some v => (schema.decode route v).map some
    | none => .ok none
  | _, .defaulted name schema default _ _, entries =>
    match entries.lookup name with
    | some v => schema.decode route v
    | none => .ok default

/-- The value of a field in a list of fields, and the fields after it; `expected` is what the list should be. -/
def Field.decodeItem (route : Route) (expected : String) (index : Nat) :
    {α : Type} → Field α → List Value → Except Mismatch (α × List Value)
  | _, .required _ schema, v :: rest => return (← schema.decode route v, rest)
  | _, .required _ _, [] => .error (.wrongLength index expected)
  | _, .optional _ _, .null :: rest => .ok (none, rest)
  | _, .optional _ schema, v :: rest => return (some (← schema.decode route v), rest)
  | _, .optional _ _, [] => .ok (none, [])
  | _, .defaulted _ schema _ _ _, v :: rest => return (← schema.decode route v, rest)
  | _, .defaulted _ _ default _ _, [] => .ok (default, [])

/-- The values of all fields in a mapping, or all fields at fault. -/
def Fields.decodeEntries (route : Route) :
    {ρ : Type} → Fields ρ → List (String × Value) → Except FieldFaults ρ
  | _, .nil, _ => .ok ()
  | _, .cons field rest, entries =>
    match field.decodeEntry route entries, rest.decodeEntries route entries with
    | .ok a, .ok row => .ok (a, row)
    | .ok _, .error faults => .error faults
    | .error cause, .ok _ => .error ⟨field.name, cause, []⟩
    | .error cause, .error faults => .error ⟨field.name, cause, faults.all⟩

/-- The values of all fields in a list, and the elements after them. -/
def Fields.decodeItems (route : Route) (expected : String) :
    {ρ : Type} → Fields ρ → Nat → List Value → Except Mismatch (ρ × List Value)
  | _, .nil, _, items => .ok ((), items)
  | _, .cons field rest, index, items => do
    let (a, items) ← field.decodeItem route expected index items
    let (row, items) ← rest.decodeItems route expected (index + 1) items
    return ((a, row), items)

/-- The member with the given tag, read from the rest of the value; `none` when no member has that tag. -/
def Variants.decode? : {σ : Type} → Variants σ → String → Value → Option (Except Mismatch σ)
  | _, .nil, _, _ => none
  | _, .cons name aliases record rest, tag, content =>
    if tag = name ∨ tag ∈ aliases then some ((record.decode .buffered content).map .inl)
    else (rest.decode? tag content).map fun result => result.map .inr

end

end FlowCheck
