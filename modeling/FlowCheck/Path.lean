/-!
# Paths into a document

A path is a starting text followed by field names and list indices, written `steps[2].step.expression`.
-/

namespace FlowCheck

/-- One step from a node of a document to a child. -/
inductive Segment where
  | field (name : String)
  | index (i : Nat)
  deriving DecidableEq

def Segment.text : Segment → String
  | .field name => "." ++ name
  | .index i => s!"[{i}]"

/-- A place in a document. -/
structure Path where
  root : String
  segments : List Segment := []
  deriving DecidableEq

namespace Path

/-- The field of a mapping at the path. -/
def field (path : Path) (name : String) : Path :=
  { path with segments := path.segments ++ [.field name] }

/-- The element of a list at the path. -/
def index (path : Path) (i : Nat) : Path :=
  { path with segments := path.segments ++ [.index i] }

def text (path : Path) : String :=
  path.root ++ String.join (path.segments.map Segment.text)

theorem text_field (path : Path) (name : String) : (path.field name).text = path.text ++ "." ++ name := by
  simp [text, field, Segment.text, String.append_assoc]

theorem text_index (path : Path) (i : Nat) : (path.index i).text = path.text ++ s!"[{i}]" := by
  simp [text, index, Segment.text, String.append_assoc]

end Path

end FlowCheck
