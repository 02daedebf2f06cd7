import FlowCheck.Yaml.Node
import FlowCheck.Yaml.Scalar

/-!
# Reading YAML

`read` turns a text into a tree, or says what is wrong with it.  Aliases are followed, at most a hundred times
as often as the document has parts; containers may be nested 128 deep.  The keys of mappings are the texts of
scalars.  Tags may say that a scalar is a text, an integer, a number, a boolean or null; local tags are refused.
-/

namespace FlowCheck.Yaml

/-- Reading with a count of the aliases that may still be followed. -/
abbrev Follow := StateT Nat (Except String)

/-- The node that an alias stands for; any other node stands for itself. -/
def follow (anchored : List (Nat × Node)) : Node → Follow Node
  | .alias n => fun left =>
    match left, anchored.lookup n with
    | 0, _ => .error "aliases are repeated too often"
    | left + 1, some node => .ok (node, left)
    | _, none => .error "an alias has no anchor"
  | node => pure node

/-- An integer that fits 64 bits. -/
def wideInt (n : Int) : Except String Value :=
  match WideInt.ofInt? n with
  | some i => .ok (.int i)
  | none => .error "an integer does not fit"

/-- The value of a plain scalar without a tag. -/
def plainValue (text : String) : Except String Value :=
  match resolve text with
  | .null => .ok .null
  | .bool b => .ok (.bool b)
  | .int n => wideInt n
  | .float x => .ok (.float x)
  | .nonFinite => .ok .null
  | .text => .ok (.string text)

/-- The number that a scalar tagged as one stands for; those that are not finite are null. -/
def taggedFloat (text : String) : Except String Value :=
  if isNonFinite text then .ok .null
  else
    let number := match text.toList with
      | '-' :: cs => decimal? true cs
      | '+' :: cs => decimal? false cs
      | cs => decimal? false cs
    match number with
    | some x => .ok (.float x)
    | none => .error "a scalar is no number"

/-- The value of a scalar with a tag that is not local. -/
def taggedValue (tag text : String) : Except String Value :=
  if tag = "tag:yaml.org,2002:bool" then
    match bool? text with
    | some b => .ok (.bool b)
    | none => .error "a scalar is no boolean"
  else if tag = "tag:yaml.org,2002:int" then
    match integer? text.toList with
    | some n => wideInt n
    | none => .error "a scalar is no integer"
  else if tag = "tag:yaml.org,2002:float" then taggedFloat text
  else if tag = "tag:yaml.org,2002:null" then
    if !text.isEmpty && isNull text then .ok .null else .error "a scalar is not null"
  else .ok (.string text)

/-- The tag is none of a document's own. -/
def checkTag (properties : Properties) : Except String Unit :=
  if properties.tag.any fun tag => tag.toList.head? = some '!' then .error "a tag is unknown" else .ok ()

def scalarValue (properties : Properties) (plain : Bool) (text : String) : Except String Value := do
  checkTag properties
  match properties.tag with
  | some tag => taggedValue tag text
  | none => if plain then plainValue text else return .string text

/-- The text of a key. -/
def keyText (anchored : List (Nat × Node)) (key : Node) : Follow String := do
  match ← follow anchored key with
  | .scalar _ _ text => return text
  | _ => throw "a key is no scalar"

/-- The tree of a node in which containers may be nested `depth` deep. -/
def tree (anchored : List (Nat × Node)) : Nat → Node → Follow Value
  | 0, node => do
    match ← follow anchored node with
    | .scalar properties plain text => scalarValue properties plain text
    | _ => throw "containers are nested too deep"
  | depth + 1, node => do
    match ← follow anchored node with
    | .alias _ => throw "an alias has no anchor"
    | .scalar properties plain text => scalarValue properties plain text
    | .list properties items =>
      checkTag properties
      return .list (← items.mapM (tree anchored depth))
    | .mapping properties entries =>
      checkTag properties
      return .ofFields (← entries.mapM fun (key, value) => do
        return (← keyText anchored key, ← tree anchored depth value))

/-- The tree that a YAML text stands for, or what is wrong with the text; a text without a document is null. -/
def read (text : String) : Except String Value := do
  let tokens ← Token.ofText text
  match ← Node.ofTokens tokens with
  | none => return .null
  | some node =>
    let (v, _) ← (tree node.anchored.reverse 128 node).run (100 * node.size)
    return v

end FlowCheck.Yaml
