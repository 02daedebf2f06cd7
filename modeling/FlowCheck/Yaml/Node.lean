import FlowCheck.Yaml.Token

/-!
# Nodes of a YAML document

`Node.ofTokens` builds the node of the one document in a stream.  An anchor is numbered by how many names are
known when it comes, and an alias refers to the number that its name has then; `Node.anchored?` finds the node
with a number, the last one if there are several.
-/

namespace FlowCheck.Yaml

/-- Tag and anchor of a node. -/
structure Properties where
  tag : Option String := none
  anchor : Option Nat := none

/-- A node before aliases are followed and scalars resolved. -/
inductive Node where
  | alias (anchor : Nat)
  | scalar (properties : Properties) (plain : Bool) (text : String)
  | list (properties : Properties) (items : List Node)
  | mapping (properties : Properties) (entries : List (Node × Node))

namespace Node

/-- A node without any characters. -/
def empty (properties : Properties) : Node :=
  scalar properties true ""

mutual

/-- The parts of a node: a scalar or an alias is one, a container has two of its own. -/
def size : Node → Nat
  | .list _ items => 2 + sizeItems items
  | .mapping _ entries => 2 + sizeEntries entries
  | _ => 1

def sizeItems : List Node → Nat
  | [] => 0
  | node :: items => size node + sizeItems items

def sizeEntries : List (Node × Node) → Nat
  | [] => 0
  | (key, value) :: entries => size key + size value + sizeEntries entries

end

mutual

/-- All nodes with an anchor, from left to right, an outer node before those inside it. -/
def anchored : Node → List (Nat × Node)
  | .alias _ => []
  | .scalar properties plain text => properties.anchor.toList.map (·, .scalar properties plain text)
  | .list properties items => properties.anchor.toList.map (·, .list properties items) ++ anchoredItems items
  | .mapping properties entries =>
    properties.anchor.toList.map (·, .mapping properties entries) ++ anchoredEntries entries

def anchoredItems : List Node → List (Nat × Node)
  | [] => []
  | node :: items => anchored node ++ anchoredItems items

def anchoredEntries : List (Node × Node) → List (Nat × Node)
  | [] => []
  | (key, value) :: entries => anchored key ++ anchored value ++ anchoredEntries entries

end

end Node

/-! ## Building nodes -/

/-- What a parser has before it, and the anchors behind it. -/
structure NodeState where
  tokens : List Token
  /-- The names of anchors with their numbers. -/
  anchors : List (String × Nat) := []

namespace NodeState

/-- The next token; behind the last one the stream is at its end. -/
def peek (s : NodeState) : Token :=
  s.tokens.headD .streamEnd

def skip (s : NodeState) : NodeState :=
  { s with tokens := s.tokens.tail }

/-- Numbers an anchor. -/
def define (s : NodeState) (name : String) : Nat × NodeState :=
  let n := s.anchors.length
  (n, { s with anchors := (name, n) :: s.anchors.filter (·.1 != name) })

/-- Numbers an anchor if there is one. -/
def defineAny (s : NodeState) : Option String → Option Nat × NodeState
  | none => (none, s)
  | some name =>
    let (n, s) := s.define name
    (some n, s)

end NodeState

/-- The handles of tags with what they stand for. -/
abbrev Handles := List (String × String)

/-- A tag in full. -/
def fullTag (handles : Handles) (handle suffix : String) : Except String String :=
  if handle.isEmpty then .ok suffix
  else
    match handles.lookup handle with
    | some stem => .ok (stem ++ suffix)
    | none => .error "a tag has an unknown handle"

/-- Reads the tag and the anchor before a node, in either order. -/
def properties (handles : Handles) (s : NodeState) :
    Except String (Option String × Option String × NodeState) := do
  match s.peek with
  | .anchor name =>
    let s := s.skip
    match s.peek with
    | .tag handle suffix => return (some (← fullTag handles handle suffix), some name, s.skip)
    | _ => return (none, some name, s)
  | .tag handle suffix =>
    let s := s.skip
    let tag ← fullTag handles handle suffix
    match s.peek with
    | .anchor name => return (some tag, some name, s.skip)
    | _ => return (some tag, none, s)
  | _ => return (none, none, s)

mutual

/-- A node.  In a `block` it may be one itself; an element of a list need not be indented where `indentless`.  `fuel`
bounds the number of calls. -/
def node (fuel : Nat) (handles : Handles) (block indentless : Bool) (s : NodeState) :
    Except String (Node × NodeState) :=
  match fuel with
  | 0 => .error "a node is missing"
  | fuel + 1 =>
    match s.peek with
    | .alias name =>
      match s.anchors.lookup name with
      | some n => .ok (.alias n, s.skip)
      | none => .error "an alias has no anchor"
    | _ => do
      let (tag, name, s) ← properties handles s
      let (anchor, numbered) := s.defineAny name
      let own : Properties := { tag, anchor }
      match s.peek with
      | .scalar plain text => return (.scalar own plain text, numbered.skip)
      | .listStart => (flowItems fuel handles true numbered.skip).map fun (items, s) => (.list own items, s)
      | .mappingStart =>
        (flowEntries fuel handles true numbered.skip).map fun (entries, s) => (.mapping own entries, s)
      | t =>
        if t = .entry ∧ indentless then
          (indentlessItems fuel handles numbered).map fun (items, s) => (.list own items, s)
        else if t = .blockListStart ∧ block then
          (blockItems fuel handles numbered.skip).map fun (items, s) => (.list own items, s)
        else if t = .blockMappingStart ∧ block then
          (blockEntries fuel handles numbered.skip).map fun (entries, s) => (.mapping own entries, s)
        else if tag.isSome ∨ name.isSome then .ok (.empty own, numbered)
        else .error "a node is missing"

/-- A node, or an empty one if one of the given tokens comes next. -/
def nodeUnless (fuel : Nat) (handles : Handles) (block indentless : Bool) (ends : List Token) (s : NodeState) :
    Except String (Node × NodeState) :=
  match fuel with
  | 0 => .error "a node is missing"
  | fuel + 1 => if ends.contains s.peek then .ok (.empty {}, s) else node fuel handles block indentless s

/-- The elements of a list up to the end of its block. -/
def blockItems (fuel : Nat) (handles : Handles) (s : NodeState) : Except String (List Node × NodeState) :=
  match fuel with
  | 0 => .error "a list does not end"
  | fuel + 1 =>
    match s.peek with
    | .entry => do
      let (item, s) ← nodeUnless fuel handles true false [.entry, .blockEnd] s.skip
      let (items, s) ← blockItems fuel handles s
      return (item :: items, s)
    | .blockEnd => .ok ([], s.skip)
    | _ => .error "an element of a list is missing"

/-- The elements of a list that is not indented. -/
def indentlessItems (fuel : Nat) (handles : Handles) (s : NodeState) : Except String (List Node × NodeState) :=
  match fuel with
  | 0 => .error "a list does not end"
  | fuel + 1 =>
    match s.peek with
    | .entry => do
      let (item, s) ← nodeUnless fuel handles true false [.entry, .key, .value, .blockEnd] s.skip
      let (items, s) ← indentlessItems fuel handles s
      return (item :: items, s)
    | _ => .ok ([], s)

/-- The entries of a mapping up to the end of its block. -/
def blockEntries (fuel : Nat) (handles : Handles) (s : NodeState) :
    Except String (List (Node × Node) × NodeState) :=
  match fuel with
  | 0 => .error "a mapping does not end"
  | fuel + 1 =>
    match s.peek with
    | .key => do
      let (key, s) ← nodeUnless fuel handles true true [.key, .value, .blockEnd] s.skip
      let (value, s) ←
        if s.peek = .value then nodeUnless fuel handles true true [.key, .value, .blockEnd] s.skip
        else .ok (.empty {}, s)
      let (entries, s) ← blockEntries fuel handles s
      return ((key, value) :: entries, s)
    | .blockEnd => .ok ([], s.skip)
    | _ => .error "a key is missing"

/-- The elements of a list up to its bracket; `first` before the first one. -/
def flowItems (fuel : Nat) (handles : Handles) (first : Bool) (s : NodeState) :
    Except String (List Node × NodeState) :=
  match fuel with
  | 0 => .error "a list does not end"
  | fuel + 1 =>
    if s.peek = .listEnd then .ok ([], s.skip)
    else if !first && s.peek != .comma then .error "a comma or a bracket is missing"
    else
      let s := if first then s else s.skip
      match s.peek with
      | .listEnd => .ok ([], s.skip)
      | .key => do
        let (pair, s) ← flowPair fuel handles s.skip
        let (items, s) ← flowItems fuel handles false s
        return (pair :: items, s)
      | _ => do
        let (item, s) ← node fuel handles false false s
        let (items, s) ← flowItems fuel handles false s
        return (item :: items, s)

/-- A mapping of one entry as the element of a list; if the key is empty, the token in its place does not count. -/
def flowPair (fuel : Nat) (handles : Handles) (s : NodeState) : Except String (Node × NodeState) :=
  match fuel with
  | 0 => .error "a node is missing"
  | fuel + 1 => do
    let (key, s) ←
      if [Token.value, .comma, .listEnd].contains s.peek then .ok (.empty {}, s.skip)
      else node fuel handles false false s
    let (value, s) ←
      if s.peek = .value then nodeUnless fuel handles false false [.comma, .listEnd] s.skip
      else .ok (.empty {}, s)
    return (.mapping {} [(key, value)], s)

/-- The entries of a mapping up to its brace; `first` before the first one. -/
def flowEntries (fuel : Nat) (handles : Handles) (first : Bool) (s : NodeState) :
    Except String (List (Node × Node) × NodeState) :=
  match fuel with
  | 0 => .error "a mapping does not end"
  | fuel + 1 =>
    if s.peek = .mappingEnd then .ok ([], s.skip)
    else if !first && s.peek != .comma then .error "a comma or a brace is missing"
    else
      let s := if first then s else s.skip
      match s.peek with
      | .mappingEnd => .ok ([], s.skip)
      | .key => do
        let (key, s) ← nodeUnless fuel handles false false [.value, .comma, .mappingEnd] s.skip
        let (value, s) ←
          if s.peek = .value then nodeUnless fuel handles false false [.comma, .mappingEnd] s.skip
          else .ok (.empty {}, s)
        let (entries, s) ← flowEntries fuel handles false s
        return ((key, value) :: entries, s)
      | _ => do
        let (key, s) ← node fuel handles false false s
        let (entries, s) ← flowEntries fuel handles false s
        return ((key, .empty {}) :: entries, s)

end

/-! ## Documents -/

/-- The directives before a document. -/
structure Directives where
  hasVersion : Bool := false
  handles : Handles := []

/-- Reads directives; a handle or the version may be given once. -/
def Directives.ofTokens (d : Directives) : List Token → Except String (Directives × List Token)
  | .version major minor :: tokens =>
    if d.hasVersion then .error "the version is given twice"
    else if major = 1 ∧ (minor = 1 ∨ minor = 2) then ofTokens { d with hasVersion := true } tokens
    else .error "the version is unknown"
  | .handle name stem :: tokens =>
    if (d.handles.lookup name).isSome then .error "a handle is given twice"
    else ofTokens { d with handles := d.handles ++ [(name, stem)] } tokens
  | tokens => .ok (d, tokens)

/-- The handles that need not be given. -/
def standardHandles : Handles :=
  [("!", "!"), ("!!", "tag:yaml.org,2002:")]

/-- The node of the only document, if there is one. -/
def Node.ofTokens (tokens : List Token) : Except String (Option Node) := do
  let fuel := 3 * tokens.length + 3
  let (directives, rest) ← Directives.ofTokens {} tokens
  let handles := directives.handles ++ standardHandles
  let (node, s) ←
    match rest with
    | [.streamEnd] =>
      if tokens.length = 1 then return none else throw "a document is missing"
    | .documentStart :: rest =>
      if [Token.documentStart, .documentEnd, .streamEnd].contains (rest.headD .streamEnd) ||
          (match rest with
            | .version _ _ :: _ => true
            | .handle _ _ :: _ => true
            | _ => false) then
        pure (Node.empty {}, { tokens := rest })
      else node fuel handles true false { tokens := rest }
    | rest =>
      if rest.length = tokens.length then node fuel handles true false { tokens := rest }
      else throw "a document is missing"
  if (s.tokens.dropWhile (· = .documentEnd)) = [.streamEnd] then return some node
  throw "there is more than one document"

end FlowCheck.Yaml
