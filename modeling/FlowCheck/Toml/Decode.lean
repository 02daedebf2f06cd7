import FlowCheck.Schema.Decode
import FlowCheck.Toml.Reader

/-!
# Structures in TOML texts
-/

namespace FlowCheck.Toml

/-- The structure that a text stands for, or what is wrong with the text. -/
def decode {α : Type} (record : Record α) (text : String) : Except String α := do
  let tree ← read text
  match record.decode .configuration tree with
  | .ok a => return a
  | .error mismatch => throw (faultMark ++ ": " ++ mismatch.message)

end FlowCheck.Toml
