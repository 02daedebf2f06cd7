import FlowCheck.CommandLine.Arguments
import FlowCheck.Format

/-!
# Commands

`Command.ofArguments` reads a command line.  Before the name of a command there may be flags only.
-/

namespace FlowCheck.CommandLine

/-- The form of a report. -/
inductive ReportFormat where
  | text
  | json
  deriving DecidableEq

/-- The encoding of a flow that is printed. -/
inductive FlowFormat where
  | json
  | yaml
  deriving DecidableEq

inductive Command where
  | validate (files : List String) (format : InputFormat) (output : ReportFormat) (config : Option String)
  | normalize (file : String) (format : InputFormat) (output : FlowFormat) (config : Option String)
  | codes (output : ReportFormat)
  deriving DecidableEq

/-! ## Values -/

/-- The value of a parameter, or its default. -/
def valueOf? (given : List Given) (p : Parameter) : Option String :=
  match given.find? (·.slot = .parameter p) with
  | some g => g.values.head?
  | none => p.default

/-- The operands. -/
def operands (given : List Given) : List String :=
  given.flatMap fun g => match g.slot with
    | .operand _ => g.values
    | .parameter _ => []

/-- The value among the alternatives of a parameter. -/
def choiceOf {α : Type} (given : List Given) (p : Parameter) (names : List (String × α)) (default : α) : α :=
  ((valueOf? given p).bind fun name => names.lookup name).getD default

private def formatOf (given : List Given) : InputFormat :=
  choiceOf given inputFormat [("auto", .auto), ("json", .json), ("yaml", .yaml)] .auto

/-- The parameter of a command with a name. -/
def CommandShape.parameter? (shape : CommandShape) (name : String) : Option Parameter :=
  shape.parameters.find? (·.name = name)

private def reportFormatOf (shape : CommandShape) (given : List Given) : ReportFormat :=
  match shape.parameter? "output" with
  | some p => choiceOf given p [("text", .text), ("json", .json)] .text
  | none => .text

namespace Command

/-- Readers for the commands by name. -/
def readers : List (String × (List String → Except Stop Command)) :=
  [(CommandShape.validate.name, fun arguments => do
      let given ← readCommand .validate arguments
      return validate (operands given) (formatOf given) (reportFormatOf .validate given) (valueOf? given configFile)),
    (CommandShape.normalize.name, fun arguments => do
      let given ← readCommand .normalize arguments
      let output := choiceOf given flowFormat [("json", FlowFormat.json), ("yaml", .yaml)] .json
      return normalize ((operands given).headD "") (formatOf given) output (valueOf? given configFile)),
    (CommandShape.codes.name, fun arguments => do
      let given ← readCommand .codes arguments
      return codes (reportFormatOf .codes given))]

/-- The help text that the names after `help` ask for. -/
def helpFor : List String → Stop
  | [] => .help programLongHelp
  | name :: rest =>
    match CommandShape.all.find? (·.name = name) with
    | some shape =>
      match rest with
      | [] => .help shape.longHelp
      | other :: _ => .unknownCommand other none shape.usage
    | none =>
      if name = helpName then
        match rest with
        | [] => .help helpHelp
        | other :: _ => .unknownCommand other none helpUsage
      else .unknownCommand name none (programUsage [])

/-- The first of the arguments that names a command which knows an argument like the one given. -/
def hintAtCommand? (name : String) (rest : List String) : Option Hint :=
  rest.findSome? fun word =>
    (CommandShape.all.find? (·.name = word)).bind fun shape =>
      (similarName? name shape.longNames).map (Hint.argumentOf shape.name)

/-- An argument with two hyphens that the program does not know. -/
def unknownProgramLong (name : String) (rest : List String) : Stop :=
  match similarName? name programLongNames with
  | some other => .unexpected ("--" ++ name) (some (.argument other)) (programUsage ["--" ++ other])
  | none => .unexpected ("--" ++ name) (hintAtCommand? name rest) (programUsage [])

/-- A word that is no command. -/
def unknownName (name : String) : Stop :=
  let similar := similarNames name commandNames
  .unknownCommand name (if similar.isEmpty then none else some (.commands similar)) (programUsage [])

/-- Reads a command line after the name of the program; `trailing` after two lone hyphens. -/
def read (trailing : Bool) : List String → Except Stop Command
  | [] => .error (.helpInstead programShortHelp)
  | argument :: rest =>
    if trailing then
      .error <|
        if argument ∈ commandNames then .unexpected argument (some (.dropHyphens argument)) (programUsage [])
        else unknownName argument
    else if argument = helpName then .error (helpFor rest)
    else
      match readers.lookup argument with
      | some reader => reader rest
      | none =>
        match Form.ofArgument argument with
        | .hyphens => read true rest
        | .long name value =>
          match value with
          | some v =>
            .error <|
              if name ∈ programLongNames then .unexpectedValue v ("--" ++ name) (programUsage ["--" ++ name])
              else unknownProgramLong name rest
          | none =>
            .error <|
              if name = "help" then .help programLongHelp
              else if name = "version" then .version
              else unknownProgramLong name rest
        | .short letter =>
          .error <|
            if letter = 'h' then .help programShortHelp
            else if letter = 'V' then .version
            else .unexpected (String.ofList ['-', letter]) none (programUsage [])
        | .plain => .error (unknownName argument)

/-- The command that a command line asks for. -/
def ofArguments (arguments : List String) : Except Stop Command :=
  read false arguments

/-- Another program reads what the command prints. -/
def forMachine : Command → Bool
  | validate _ _ output _ => output = .json
  | normalize _ _ _ _ => true
  | codes output => output = .json

end Command

end FlowCheck.CommandLine
