import FlowCheck.Schema.Mismatch
import FlowCheck.Text.Search

/-!
# Which field a message is about

A mismatch inside a mapping is reported at the field it is about, as far as the message tells: a missing field by its
name, an unknown name by the field that holds it, and a value of the wrong type by the one field whose value is shown
in the message.
-/

namespace FlowCheck.Structure

/-- The text between the first occurrence of a mark and the next backtick. -/
def backticked (mark : String) (message : List Char) : Option String :=
  ((Text.splitAt? mark.toList message).bind fun parts => Text.splitAt? ['\x60'] parts.2).map
    fun parts => String.ofList parts.1

/-- The value that a message of a wrong type or a wrong value shows. -/
def shownValue (message : List Char) : Option String :=
  ((Text.afterStart? "invalid type: ".toList message).or (Text.afterStart? "invalid value: ".toList message)).bind
    fun rest => (Text.splitAt? ", expected".toList rest).map fun parts => String.ofList parts.1

/-- A field that the message calls missing, and that is not there. -/
def missingField (fields : List (String × Value)) (message : List Char) : Option String :=
  (backticked "missing field `" message).bind fun name =>
    if (fields.lookup name).isSome then none else some name

/-- The field that holds a name which the message calls unknown; the tag comes before all others. -/
def unknownName (fields : List (String × Value)) (message : List Char) : Option String :=
  (backticked "unknown variant `" message).bind fun name =>
    let holds (v : Value) : Bool := v.asString? == some name
    if (fields.lookup "type").any holds then some "type"
    else (fields.find? fun field => holds field.2).map (·.1)

/-- The only field whose value the message shows. -/
def mistypedField (fields : List (String × Value)) (message : List Char) : Option String :=
  (shownValue message).bind fun shown =>
    match fields.filter fun field => field.2.shown .pointed == shown with
    | [field] => some field.1
    | _ => none

/-- The field of the tree that a message is about. -/
def blamedField (v : Value) (message : String) : Option String :=
  match v with
  | .object fields =>
    (missingField fields message.toList).or
      ((unknownName fields message.toList).or (mistypedField fields message.toList))
  | _ => none

end FlowCheck.Structure
