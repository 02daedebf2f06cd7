import FlowCheck.Logging.Event
import FlowCheck.Text.Alphanumeric
import FlowCheck.Text.Blank

/-!
# Directives

A directive says which events are logged: `target[span{field=value,…}]=level`, where each part may be missing, or a
level alone.  A word alone that is no level is a target, of which everything is logged.

Blanks around a directive do not take part in its structure.  Its parts, however, are taken from the text with
the blanks in front, at the places where they would stand without them.
-/

namespace FlowCheck.Logging

/-- A condition on a field of an event. -/
structure FieldFilter where
  name : String
  /-- The field must have a certain value. -/
  hasValue : Bool
  deriving DecidableEq

structure Directive where
  target : Option String := none
  threshold : Threshold := some .trace
  span : Option String := none
  fields : List FieldFilter := []
  deriving DecidableEq

/-- How much of a directive has been read; parts that are still open have their characters in reverse order. -/
inductive Stage where
  | start
  /-- A level or a target. -/
  | word (part : List Char)
  | span (part : List Char)
  | field (part : List Char)
  /-- After the fields. -/
  | fields
  /-- After the brackets. -/
  | brackets
  | level (part : List Char)
  | complete

namespace Directive

private def text (part : List Char) : String :=
  String.ofList part.reverse

/-- The condition that a part between braces stands for. -/
def fieldFilter? (part : List Char) : Option FieldFilter :=
  let cs := part.reverse
  if cs.isEmpty then none else some ⟨String.ofList (cs.takeWhile (· != '=')), cs.contains '='⟩

/-- The threshold after an equals sign; everything is logged if there is none. -/
def threshold? (part : String) : Option Threshold :=
  if part.isEmpty then some (some .trace) else Threshold.ofText? part

/-- The directive with a lone word. -/
def ofWord (directive : Directive) (word : String) : Directive :=
  match Threshold.ofText? word with
  | some threshold => { directive with threshold, target := none }
  | none => { directive with threshold := some .trace, target := some word }

/-- A character that a directive may begin with, brackets apart. -/
def startsWord (c : Char) : Bool :=
  c = '-' || c = ':' || c = '_' || Text.isAlphanumeric c

/-- Reads one character; `taken` is the one that goes into a part. -/
def step (directive : Directive) (stage : Stage) (c taken : Char) : Option (Directive × Stage) :=
  match stage with
  | .start =>
    if c = '[' then some (directive, .span [])
    else if startsWord c then some (directive, .word [taken])
    else none
  | .word part =>
    if c = '=' then some ({ directive with target := some (text part) }, .level [])
    else if c = '[' then some ({ directive with target := some (text part) }, .span [])
    else if c = ',' then some (directive.ofWord (text (taken :: part)), .complete)
    else some (directive, .word (taken :: part))
  | .span part =>
    if c = ']' then some ({ directive with span := some (text part) }, .brackets)
    else if c = '\x7b' then
      some ({ directive with span := if part.isEmpty then none else some (text part) }, .field [])
    else some (directive, .span (taken :: part))
  | .field part =>
    if c = '\x7d' ∨ c = ',' then
      (fieldFilter? part).map fun filter =>
        ({ directive with fields := directive.fields ++ [filter] }, if c = ',' then .field [] else .fields)
    else some (directive, .field (taken :: part))
  | .fields => if c = ']' then some (directive, .brackets) else none
  | .brackets => if c = '=' then some (directive, .level []) else none
  | .level part =>
    if c = ',' then (threshold? (text part)).map fun threshold => ({ directive with threshold }, .complete)
    else some (directive, .level (taken :: part))
  | .complete => none

/-- The directive at the end of its text; `rest` still belongs to an open part. -/
def finish (rest : List Char) : Directive × Stage → Option Directive
  | (directive, .word part) => some (directive.ofWord (text part ++ String.ofList rest))
  | (directive, .level part) =>
    (threshold? (text part ++ String.ofList rest)).map fun threshold => { directive with threshold }
  | (directive, .brackets) => some directive
  | (directive, .complete) => some directive
  | _ => none

/-- The directive that a text stands for. -/
def ofText? (s : String) : Option Directive :=
  let trimmed := (Text.trim s).toList
  let state := (trimmed.zip s.toList).foldlM (fun state pair => step state.1 state.2 pair.1 pair.2)
    (({} : Directive), Stage.start)
  state.bind (finish (s.toList.drop trimmed.length))

/-- Spans are not entered and values of fields are not looked at, so that a directive about them concerns no
event.  The others concern events of targets with the same beginning that show all their fields. -/
def concerns (directive : Directive) (event : Event) : Bool :=
  directive.span.isNone && directive.target.all (fun target => target.toList.isPrefixOf event.target.toList) &&
    directive.fields.all fun field => !field.hasValue && event.shows field.name

/-- Directives with longer targets come first, then those with more fields, then those with greater ones. -/
def isLess (a b : Directive) : Bool :=
  let size (d : Directive) : List Nat := [(d.target.map (·.utf8ByteSize + 1)).getD 0, d.fields.length]
  let names (d : Directive) : List String := d.fields.map (·.name)
  size a < size b || (size a = size b && names a < names b)

end Directive

end FlowCheck.Logging
