import FlowCheck.Text.Blank

/-!
# Encodings of documents
-/

namespace FlowCheck

/-- The encoding of a document. -/
inductive InputFormat where
  | auto
  | json
  | yaml
  deriving DecidableEq

namespace InputFormat

def text : InputFormat → String
  | auto => "auto"
  | json => "JSON"
  | yaml => "YAML"

/-- Settles the encoding of a text: unless it is given, a text that begins with a brace or a bracket is JSON. -/
def resolve (format : InputFormat) (document : String) : InputFormat :=
  match format with
  | auto =>
    match document.toList.dropWhile Text.isBlank with
    | c :: _ => if c = '\x7b' ∨ c = '[' then json else yaml
    | [] => yaml
  | format => format

end InputFormat

end FlowCheck
