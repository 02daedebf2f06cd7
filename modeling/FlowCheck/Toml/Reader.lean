import FlowCheck.Toml.Number
import FlowCheck.Toml.Table

/-!
# Reading TOML

`read` turns a text into a tree, or says where the text is wrong: lines and columns count from one.
-/

namespace FlowCheck.Toml

mutual

/-- A value.  `depth` is the number of containers that may still be opened; `fuel` bounds the number of calls. -/
def value (fuel depth : Nat) (cs : List Char) : Except (List Char) (Value × List Char) :=
  match fuel, cs with
  | 0, cs => .error cs
  | _ + 1, [] => .error []
  | fuel + 1, c :: rest =>
    if c = '"' ∨ c = '\'' then (stringValue cs).map fun (s, rest) => (.string s, rest)
    else if c = '[' then
      match depth with
      | 0 => .error cs
      | depth + 1 => (items fuel depth rest).map fun (vs, rest) => (.list vs, rest)
    else if c = '\x7b' then
      match depth with
      | 0 => .error cs
      | depth + 1 => do
        let (pairs, rest) ← pairs fuel depth true rest
        match Table.assignAll pairs [] with
        | some table => return (table.toValue, rest)
        | none => throw cs
    else if cs.take 4 = "true".toList then .ok (.bool true, cs.drop 4)
    else if cs.take 5 = "false".toList then .ok (.bool false, cs.drop 5)
    else numberOrDate cs

/-- The elements of a list up to its bracket. -/
def items (fuel depth : Nat) (cs : List Char) : Except (List Char) (List Value × List Char) :=
  match fuel, skipFiller false cs with
  | 0, cs => .error cs
  | _ + 1, ']' :: rest => .ok ([], rest)
  | fuel + 1, cs => do
    let (v, rest) ← value fuel depth cs
    match skipFiller false rest with
    | ',' :: rest => do
      let (vs, rest) ← items fuel depth rest
      return (v :: vs, rest)
    | ']' :: rest => return ([v], rest)
    | rest => throw rest

/-- The values of a table in braces up to the closing one; `first` before the first value. -/
def pairs (fuel depth : Nat) (first : Bool) (cs : List Char) : Except (List Char) (List Assignment × List Char) :=
  match fuel, skipSpace cs with
  | 0, cs => .error cs
  | _ + 1, [] => .error []
  | fuel + 1, c :: rest =>
    if first ∧ c = '\x7d' then .ok ([], rest)
    else do
      let ((path, key), rest) ← dottedKey (c :: rest)
      let ((), rest) ← mark '=' rest
      let (v, rest) ← value fuel depth (skipSpace rest)
      match skipSpace rest with
      | ',' :: rest => do
        let (more, rest) ← pairs fuel depth false rest
        return (⟨path, key, v⟩ :: more, rest)
      | d :: rest => if d = '\x7d' then return ([⟨path, key, v⟩], rest) else throw (d :: rest)
      | [] => throw []

end

/-- A value with its key on a line of its own. -/
def assignment : Reader Assignment := fun cs => do
  let ((path, key), rest) ← dottedKey cs
  let ((), rest) ← mark '=' rest
  let (v, rest) ← value (2 * rest.length + 2) maxDepth (skipSpace rest)
  let ((), rest) ← lineEnd rest
  return (⟨path, key, v⟩, rest)

/-- A header after its first bracket. -/
def header : Reader Header := fun cs => do
  match cs with
  | '[' :: cs => do
    let ((path, key), rest) ← dottedKey cs
    let ((), rest) ← mark ']' rest
    let ((), rest) ← mark ']' rest
    let ((), rest) ← lineEnd rest
    return (.element path key, rest)
  | cs => do
    let ((path, key), rest) ← dottedKey cs
    let ((), rest) ← mark ']' rest
    let ((), rest) ← lineEnd rest
    return (.table path key, rest)

/-- The values up to the next header, and the parts from there on.  `fuel` bounds the number of lines. -/
def parts : Nat → List Char → Except (List Char) (List Assignment × List Part)
  | 0, cs => .error cs
  | fuel + 1, cs =>
    match skipSpace cs with
    | [] => .ok ([], [])
    | c :: rest =>
      if c = '#' ∨ c = '\n' ∨ c = '\r' then do
        let ((), rest) ← lineEnd (c :: rest)
        parts fuel rest
      else if c = '[' then do
        let (header, rest) ← header rest
        let (assignments, more) ← parts fuel rest
        return ([], ⟨header, assignments⟩ :: more)
      else do
        let (first, rest) ← assignment (c :: rest)
        let (assignments, more) ← parts fuel rest
        return (first :: assignments, more)

/-- The characters after the mark of the byte order, which a text may start with. -/
def dropByteOrderMark : List Char → List Char
  | '\uFEFF' :: cs => cs
  | cs => cs

/-- Line and column of the first unread character. -/
def place (text unread : List Char) : Nat × Nat :=
  let done := text.take (text.length - unread.length)
  (done.count '\n' + 1, (done.reverse.takeWhile (· != '\n')).length + 1)

/-- What messages about TOML texts begin with. -/
def faultMark : String := "TOML parse error"

/-- The tree that a TOML text stands for, or what is wrong with the text. -/
def read (s : String) : Except String Value :=
  let text := dropByteOrderMark s.toList
  match parts (text.length + 1) text with
  | .error unread =>
    let (line, column) := place text unread
    .error (faultMark ++ s!" at line {line}, column {column}")
  | .ok (assignments, parts) =>
    match (Table.assignAll assignments []).bind fun table => parts.foldlM (fun table part => table.add part) table with
    | some table => .ok table.toValue
    | none => .error (faultMark ++ ": a key is given twice")

end FlowCheck.Toml
