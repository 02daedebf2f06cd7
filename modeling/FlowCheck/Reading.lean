import FlowCheck.Json.Parser
import FlowCheck.Limits
import FlowCheck.Structure.Basic
import FlowCheck.Yaml.Reader

/-!
# From texts to trees to flows

A text is measured, read in its encoding and the tree measured; a tree within the limits is checked for the structure
of a flow.
-/

namespace FlowCheck.Reading

/-- The tree that a text says, in an encoding that is settled. -/
def decode (format : InputFormat) (text : String) : Except String Value :=
  match format with
  | .json => Json.read text
  | _ => Yaml.read text

/-- The tree that a text within the limits says. -/
def tree (limits : InputLimits) (format : InputFormat) (text : String) : Except DocumentError Value := do
  limits.checkText text
  let format := format.resolve text
  let tree ← (decode format text).mapError (.malformed format)
  limits.checkTree tree
  return tree

/-- The flow that a tree within the limits describes. -/
def flowOfTree (limits : InputLimits) (tree : Value) : Except DocumentError Flow := do
  limits.checkTree tree
  (Structure.check tree).mapError .schema

/-- The flow that a text within the limits describes. -/
def flow (limits : InputLimits) (format : InputFormat) (text : String) : Except DocumentError Flow := do
  (Structure.check (← tree limits format text)).mapError .schema

end FlowCheck.Reading
