import FlowCheck.CommandLine.Similarity
import FlowCheck.CommandLine.Stop

/-!
# Reading the arguments of a command

Arguments are read from left to right.  The values of a parameter or an operand are judged when the next one
begins, or at the end; but an argument that is not known is reported before them.
-/

namespace FlowCheck.CommandLine

/-- What values are given for. -/
inductive Slot where
  | parameter (p : Parameter)
  | operand (o : Operand)
  deriving DecidableEq

namespace Slot

def text : Slot → String
  | parameter p => p.text
  | operand o => o.text

def alternatives : Slot → List String
  | parameter p => p.alternatives.map (·.name)
  | operand _ => []

end Slot

/-- Values and what they are given for. -/
structure Given where
  slot : Slot
  values : List String
  deriving DecidableEq

/-- What has been read. -/
structure Progress where
  /-- In the order in which they began. -/
  settled : List Given := []
  /-- The last one, which is not judged yet. -/
  last : Option Given := none

/-- What is wrong with a value. -/
def valueFault? (slot : Slot) (value : String) : Option Stop :=
  let names := slot.alternatives
  if value.isEmpty then some (.noValue slot.text names)
  else if names.isEmpty ∨ value ∈ names then none
  else some (.badValue value slot.text names ((similarName? value names).map .value))

namespace Progress

/-- Settles values; even with a fault they are there.  A parameter that comes again is taken back. -/
def settle (shape : CommandShape) (progress : Progress) (given : Given) : Progress × Option Stop :=
  let others := progress.settled.filter (·.slot != given.slot)
  if given.values.isEmpty then (progress, some (.noValue given.slot.text given.slot.alternatives))
  else if others.length < progress.settled.length then
    ({ progress with settled := others }, some (.repeated given.slot.text shape.usage))
  else
    ({ progress with settled := progress.settled ++ [given] }, given.values.findSome? (valueFault? given.slot))

/-- Settles the last values. -/
def settleLast (shape : CommandShape) (progress : Progress) : Progress × Option Stop :=
  match progress.last with
  | some given => { progress with last := none }.settle shape given
  | none => (progress, none)

/-- Goes on only if there is no fault. -/
def orStop : Progress × Option Stop → Except Stop Progress
  | (progress, none) => .ok progress
  | (_, some stop) => .error stop

/-- The parameters and operands that are settled. -/
def slots (progress : Progress) : List Slot :=
  progress.settled.map (·.slot)

/-- The parameters in use, as messages show them. -/
def parametersInUse (progress : Progress) : List String :=
  progress.slots.filterMap fun
    | .parameter p => some p.text
    | .operand _ => none

end Progress

/-- How to call a command with what has been settled, and perhaps one more parameter. -/
def usageWith (shape : CommandShape) (progress : Progress) (more : Option String) : String :=
  let used := (progress.parametersInUse ++ more.toList).eraseDups
  if progress.settled.isEmpty && more.isNone then shape.usage else shape.usageOf used

/-- The name and the value after two hyphens. -/
def splitLong (cs : List Char) : String × Option String :=
  let value := match cs.dropWhile (· != '=') with
    | _ :: value => some (String.ofList value)
    | [] => none
  (String.ofList (cs.takeWhile (· != '=')), value)

/-- The form of an argument before two lone hyphens have come. -/
inductive Form where
  /-- Two hyphens alone. -/
  | hyphens
  | long (name : String) (value : Option String)
  | short (letter : Char)
  | plain
  deriving DecidableEq

def Form.ofArgument (argument : String) : Form :=
  match argument.toList with
  | ['-', '-'] => .hyphens
  | '-' :: '-' :: cs => .long (splitLong cs).1 (splitLong cs).2
  | '-' :: c :: _ => .short c
  | _ => .plain

/-- The text of the parameter or flag with a name. -/
def longText (shape : CommandShape) (name : String) : String :=
  match shape.parameters.find? (·.name = name) with
  | some p => p.text
  | none => "--" ++ name

/-- An argument with two hyphens that the command does not know. -/
def unknownLong (shape : CommandShape) (progress : Progress) (name : String) : Stop :=
  let similar := similarName? name shape.longNames
  let hint := match similar with
    | some other => some (Hint.argument other)
    | none => if shape.operand.isSome then some (.asOperand ("--" ++ name)) else none
  .unexpected ("--" ++ name) hint (usageWith shape progress (similar.map (longText shape)))

/-- A value for a flag, which takes none. -/
def flagValue (shape : CommandShape) (progress : Progress) (flag value : String) : Stop :=
  let usage := if progress.settled.isEmpty then shape.usageOf [flag]
    else usageLine [shape.name, flag, shape.choiceText]
  .unexpectedValue value flag usage

/-- An argument that is a value: of the last parameter if it has none, otherwise of the operand. -/
def takeValue (shape : CommandShape) (trailing : Bool) (progress : Progress) (argument : String) :
    Except Stop Progress :=
  match progress.last with
  | some ⟨.parameter p, []⟩ =>
    if trailing then operandValue else .ok { progress with last := some ⟨.parameter p, [argument]⟩ }
  | _ => operandValue
where
  operandValue : Except Stop Progress :=
    match shape.operand with
    | none => .error (.unexpected argument none shape.usage)
    | some o =>
      match progress.last with
      | some ⟨.operand p, values⟩ =>
        if p.many then .ok { progress with last := some ⟨.operand p, values ++ [argument]⟩ }
        else .error (.unexpected argument none shape.usage)
      | _ =>
        if !o.many && progress.slots.contains (.operand o) then .error (.unexpected argument none shape.usage)
        else
          (Progress.orStop (progress.settleLast shape)).map fun progress =>
            { progress with last := some ⟨.operand o, [argument]⟩ }

/-- Reads arguments; `trailing` after two lone hyphens, where each one is an operand. -/
def readArguments (shape : CommandShape) (trailing : Bool) (progress : Progress) :
    List String → Except Stop Progress
  | [] => do
    let progress ← Progress.orStop (progress.settleLast shape)
    match shape.operand with
    | some o =>
      if progress.slots.contains (.operand o) then return progress
      else throw (.missing o.text (shape.usageOf progress.parametersInUse))
    | none => return progress
  | argument :: rest =>
    let value := do
      let progress ← takeValue shape trailing progress argument
      readArguments shape trailing progress rest
    if trailing then value
    else
      match Form.ofArgument argument with
      | .hyphens => readArguments shape true progress rest
      | .long name attached =>
        match shape.parameters.find? (·.name = name) with
        | some p => do
          let progress ← Progress.orStop (progress.settleLast shape)
          match attached with
          | some v => do
            let progress ← Progress.orStop (progress.settle shape ⟨.parameter p, [v]⟩)
            readArguments shape false progress rest
          | none => readArguments shape false { progress with last := some ⟨.parameter p, []⟩ } rest
        | none =>
          if name = "help" then
            match attached with
            | some v => .error (flagValue shape progress "--help" v)
            | none => do
              let _ ← Progress.orStop (progress.settleLast shape)
              throw (.help shape.longHelp)
          else .error (unknownLong shape (progress.settleLast shape).1 name)
      | .short letter =>
        if letter = 'h' then do
          let _ ← Progress.orStop (progress.settleLast shape)
          throw (.help shape.shortHelp)
        else
          let argument := String.ofList ['-', letter]
          .error (.unexpected argument (if shape.operand.isSome then some (.asOperand argument) else none) shape.usage)
      | .plain => value

/-- The values for all that a command takes. -/
def readCommand (shape : CommandShape) (arguments : List String) : Except Stop (List Given) :=
  (readArguments shape false {} arguments).map (·.settled)

end FlowCheck.CommandLine
