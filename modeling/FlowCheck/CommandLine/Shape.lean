/-!
# The shape of the command line

Each command takes parameters, which have names and values, and perhaps an operand, which has a value only.
Parameters and operands are what messages and help texts speak of.
-/

namespace FlowCheck.CommandLine

/-- A value that a parameter may have. -/
structure Alternative where
  name : String
  help : Option String := none
  deriving DecidableEq

/-- A named value. -/
structure Parameter where
  name : String
  /-- What stands for the value. -/
  placeholder : String
  help : String
  /-- The values that are possible; none of them if any path is. -/
  alternatives : List Alternative := []
  default : Option String := none
  /-- The title under which the help text lists it, if it is not among the options. -/
  heading : Option String := none
  deriving DecidableEq

/-- The parameter as messages show it. -/
def Parameter.text (p : Parameter) : String :=
  "--" ++ p.name ++ " <" ++ p.placeholder ++ ">"

/-- A value without a name, which has to be given. -/
structure Operand where
  placeholder : String
  help : String
  /-- There may be more than one. -/
  many : Bool
  deriving DecidableEq

/-- The operand as messages show it. -/
def Operand.text (o : Operand) : String :=
  "<" ++ o.placeholder ++ ">" ++ if o.many then "..." else ""

/-- What a command takes, and its description. -/
structure CommandShape where
  name : String
  about : String
  /-- The description in its long form. -/
  purpose : String
  /-- A command line. -/
  sample : String
  operand : Option Operand
  parameters : List Parameter
  deriving DecidableEq

/-- The name of the program. -/
def program : String := "flowdsl"

def version : String := "0.3.0"

/-- What the program is. -/
def about : String := "Type model and validator for Flow DSL documents"

def inputFormat : Parameter where
  name := "input-format"
  placeholder := "FORMAT"
  help := "Document encoding; auto sniffs the first non-whitespace character"
  alternatives := [⟨"auto", none⟩, ⟨"json", none⟩, ⟨"yaml", none⟩]
  default := some "auto"

/-- The form of a report, for a reader or for a program. -/
def reportFormat (help : String) : Parameter where
  name := "output"
  placeholder := "FORMAT"
  help := help
  alternatives :=
    [⟨"text", some "Human-readable report"⟩, ⟨"json", some "JSON payload suitable for downstream tooling"⟩]
  default := some "text"

def flowFormat : Parameter where
  name := "output"
  placeholder := "FORMAT"
  help := "Encoding of the normalized document"
  alternatives := [⟨"json", none⟩, ⟨"yaml", none⟩]
  default := some "json"

def configFile : Parameter where
  name := "config"
  placeholder := "FILE"
  help := "Path to custom config file (default: ./flowdsl.toml)"
  heading := some "Configuration"

namespace CommandShape

def validate : CommandShape where
  name := "validate"
  about := "Validate one or more flow documents"
  purpose := "Validate parses each document, checks it against the type model, then runs the semantic rules. " ++
    "The exit status is non-zero when any document is invalid."
  sample := "flowdsl validate flows/orders.yaml --output json"
  operand := some ⟨"FILE", "Flow documents to validate (JSON or YAML)", true⟩
  parameters :=
    [inputFormat, reportFormat "Emit either terminal-friendly text or machine-readable JSON", configFile]

def normalize : CommandShape where
  name := "normalize"
  about := "Print a flow with defaults applied"
  purpose := "Normalize validates the document and, when it is valid, prints the typed flow in canonical form."
  sample := "flowdsl normalize flows/orders.yaml --output yaml"
  operand := some ⟨"FILE", "Flow document to normalize", false⟩
  parameters := [inputFormat, flowFormat, configFile]

def codes : CommandShape where
  name := "codes"
  about := "List every finding code"
  purpose := "Codes prints each finding code with the severity it carries under the default configuration."
  sample := "flowdsl codes --output json"
  operand := none
  parameters := [reportFormat "Emit either a text table or a JSON array"]

/-- The commands that do work. -/
def all : List CommandShape :=
  [validate, normalize, codes]

/-- The names after two hyphens that a command knows. -/
def longNames (shape : CommandShape) : List String :=
  shape.parameters.map (·.name) ++ ["help"]

end CommandShape

/-- The command that prints help texts. -/
def helpName : String := "help"

def helpAbout : String := "Print this message or the help of the given subcommand(s)"

/-- The names of all commands. -/
def commandNames : List String :=
  CommandShape.all.map (·.name) ++ [helpName]

/-- The names after two hyphens that may stand before a command. -/
def programLongNames : List String :=
  ["help", "version"]

end FlowCheck.CommandLine
