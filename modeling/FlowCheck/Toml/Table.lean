import FlowCheck.Value.Basic

/-!
# Tables under construction

A table comes from a header of its own, from the header of a table inside it, or from a dotted key.  Only one of the
last two kinds can be given a header, and only the last kind can be filled through dotted keys; no key can be given
twice.  In a list of tables the last one stands for the list.
-/

namespace FlowCheck.Toml

/-- Where a table comes from. -/
inductive Origin where
  /-- A header names it. -/
  | header
  /-- A header names a table inside it. -/
  | path
  /-- A dotted key leads through it. -/
  | dotted
  deriving DecidableEq

/-- What stands under a key. -/
inductive Item where
  | value (v : Value)
  | table (origin : Origin) (fields : List (String × Item))
  /-- A list of tables, of which the last one can still grow. -/
  | tables (closed : List Value) (last : List (String × Item))

abbrev Table := List (String × Item)

mutual

/-- The tree of an item. -/
def Item.toValue : Item → Value
  | .value v => v
  | .table _ fields => .object (tableEntries fields)
  | .tables closed last => .list (closed ++ [.object (tableEntries last)])

/-- The trees of the items of a table. -/
def tableEntries : List (String × Item) → List (String × Value)
  | [] => []
  | (key, item) :: fields => (key, item.toValue) :: tableEntries fields

end

namespace Table

/-- The tree of a table. -/
def toValue (table : Table) : Value :=
  .object (tableEntries table)

/-- Puts a value under a key; the tables on the way are new or come from dotted keys. -/
def assign (v : Value) (key : String) : List String → Table → Option Table
  | [], table =>
    if (table.lookup key).isSome then none else some (Entries.insert key (.value v) table)
  | name :: path, table =>
    match table.lookup name with
    | none => (assign v key path []).map fun inner => Entries.insert name (.table .dotted inner) table
    | some (.value _) => none
    | some (.table origin inner) =>
      if origin = .header ∨ (origin = .path ∧ path.isEmpty) then none
      else (assign v key path inner).map fun inner => Entries.insert name (.table origin inner) table
    | some (.tables closed last) =>
      if path.isEmpty then none
      else (assign v key path last).map fun last => Entries.insert name (.tables closed last) table

/-- Changes the table at a path. -/
def within (change : Table → Option Table) : List String → Table → Option Table
  | [], table => change table
  | name :: path, table =>
    match table.lookup name with
    | none => (within change path []).map fun inner => Entries.insert name (.table .path inner) table
    | some (.value _) => none
    | some (.table origin inner) =>
      (within change path inner).map fun inner => Entries.insert name (.table origin inner) table
    | some (.tables closed last) =>
      (within change path last).map fun last => Entries.insert name (.tables closed last) table

/-- Gives a table a header and fills it. -/
def openTable (key : String) (fill : Table → Option Table) (table : Table) : Option Table :=
  match table.lookup key with
  | none => (fill []).map fun inner => Entries.insert key (.table .header inner) table
  | some (.table .path inner) => (fill inner).map fun inner => Entries.insert key (.table .header inner) table
  | some _ => none

/-- Adds a table to a list of tables and fills it. -/
def openElement (key : String) (fill : Table → Option Table) (table : Table) : Option Table :=
  match table.lookup key with
  | none => (fill []).map fun last => Entries.insert key (.tables [] last) table
  | some (.tables closed last) =>
    (fill []).map fun next => Entries.insert key (.tables (closed ++ [toValue last]) next) table
  | some _ => none

end Table

/-- A value with its key. -/
structure Assignment where
  path : List String
  key : String
  value : Value

/-- Puts values under their keys, one after the other. -/
def Table.assignAll (assignments : List Assignment) (table : Table) : Option Table :=
  assignments.foldlM (fun table a => table.assign a.value a.key a.path) table

/-- What a header opens. -/
inductive Header where
  | table (path : List String) (key : String)
  | element (path : List String) (key : String)

/-- A header and the values under it. -/
structure Part where
  header : Header
  assignments : List Assignment

/-- Adds a part of a document. -/
def Table.add (part : Part) (table : Table) : Option Table :=
  match part.header with
  | .table path key => table.within (openTable key (assignAll part.assignments)) path
  | .element path key => table.within (openElement key (assignAll part.assignments)) path

end FlowCheck.Toml
