import FlowCheck.Value.Basic

/-!
# JSON text

Two layouts: `compact` without any blanks, and `pretty` with one field or element a line and two spaces a level.  Both
write fields in the order of the tree.
-/

namespace FlowCheck.Json

/-- One character inside a JSON string. -/
def escape (c : Char) : List Char :=
  if c = '"' then ['\\', '"']
  else if c = '\\' then ['\\', '\\']
  else if c = '\x08' then ['\\', 'b']
  else if c = '\x0C' then ['\\', 'f']
  else if c = '\n' then ['\\', 'n']
  else if c = '\r' then ['\\', 'r']
  else if c = '\t' then ['\\', 't']
  else if c.toNat < 0x20 then '\\' :: 'u' :: Text.hexPadded 4 c.toNat
  else [c]

/-- A JSON string. -/
def string (s : String) : List Char :=
  '"' :: s.toList.flatMap escape ++ ['"']

/-- A scalar or an empty container. -/
def scalar : Value → List Char
  | .null => "null".toList
  | .bool b => (toString b).toList
  | .int n => (toString n.val).toList
  | .float x => (DecimalStyle.json.text x).toList
  | .string s => string s
  | .list _ => ['[', ']']
  | .object _ => ['\x7b', '\x7d']

mutual

/-- The text without blanks. -/
def compact : Value → List Char
  | .list items => '[' :: compactItems items ++ [']']
  | .object fields => '\x7b' :: compactFields fields ++ ['\x7d']
  | v => scalar v

def compactItems : List Value → List Char
  | [] => []
  | [v] => compact v
  | v :: vs => compact v ++ ',' :: compactItems vs

def compactFields : List (String × Value) → List Char
  | [] => []
  | [(k, v)] => string k ++ ':' :: compact v
  | (k, v) :: fields => string k ++ ':' :: compact v ++ ',' :: compactFields fields

end

/-- A line break and the indentation of a level. -/
def newline (level : Nat) : List Char :=
  '\n' :: List.replicate (2 * level) ' '

mutual

/-- The text of a tree whose first character stands on a line of the given level. -/
def pretty (level : Nat) : Value → List Char
  | .list [] => scalar (.list [])
  | .list items => '[' :: prettyItems (level + 1) items ++ newline level ++ [']']
  | .object [] => scalar (.object [])
  | .object fields => '\x7b' :: prettyFields (level + 1) fields ++ newline level ++ ['\x7d']
  | v => scalar v

def prettyItems (level : Nat) : List Value → List Char
  | [] => []
  | [v] => newline level ++ pretty level v
  | v :: vs => newline level ++ pretty level v ++ ',' :: prettyItems level vs

def prettyFields (level : Nat) : List (String × Value) → List Char
  | [] => []
  | [(k, v)] => newline level ++ string k ++ ':' :: ' ' :: pretty level v
  | (k, v) :: fields =>
    newline level ++ string k ++ ':' :: ' ' :: pretty level v ++ ',' :: prettyFields level fields

end

/-- The compact JSON text of a tree. -/
def compactText (v : Value) : String :=
  String.ofList (compact v)

/-- The pretty JSON text of a tree. -/
def prettyText (v : Value) : String :=
  String.ofList (pretty 0 v)

end FlowCheck.Json
