import FlowCheck.CommandLine.Shape

/-!
# Usage and help texts

In a short help text descriptions stand in a column beside what they describe; in a long one they stand below it, and
the meaning of values is told too.
-/

namespace FlowCheck.CommandLine

/-! ## Usage -/

/-- A line that says how to call the program. -/
def usageLine (words : List String) : String :=
  "Usage: " ++ " ".intercalate (program :: words)

namespace CommandShape

private def operandText (shape : CommandShape) : List String :=
  (shape.operand.map (·.text)).toList

/-- How to call a command. -/
def usage (shape : CommandShape) : String :=
  usageLine (shape.name :: "[OPTIONS]" :: shape.operandText)

/-- How to call a command with what is in use. -/
def usageOf (shape : CommandShape) (used : List String) : String :=
  usageLine (shape.name :: used ++ shape.operandText)

/-- All that a command takes, as one choice. -/
def choiceText (shape : CommandShape) : String :=
  "<" ++ "|".intercalate ((shape.operand.map (·.placeholder)).toList ++ shape.parameters.map (·.text)) ++ ">"

end CommandShape

/-- How to call the program. -/
def programUsage (used : List String) : String :=
  usageLine (used ++ ["<COMMAND>"])

/-- How to call the command for help texts. -/
def helpUsage : String :=
  usageLine [helpName, "[COMMAND]..."]

/-! ## Layout -/

/-- An entry of a help text and its description. -/
abbrev HelpEntry := String × String

/-- Descriptions beside the entries, in one column. -/
def columns (entries : List HelpEntry) : List String :=
  let width := (entries.map (·.1.length)).foldl max 0
  entries.map fun (left, right) => left ++ "".pushn ' ' (width - left.length) ++ "  " ++ right

private def indent : String := "          "

/-- Descriptions below the entries. -/
def paragraphs (entries : List HelpEntry) : String :=
  "\n\n".intercalate (entries.map fun (left, right) => left ++ "\n" ++ indent ++ right)

/-! ## What entries say -/

private def helpFlag (description : String) : HelpEntry :=
  ("  -h, --help", description)

private def shortHelpFlag : HelpEntry :=
  helpFlag "Print help (see more with '--help')"

private def longHelpFlag : HelpEntry :=
  helpFlag "Print help (see a summary with '-h')"

namespace Parameter

private def defaultNote (p : Parameter) : List String :=
  (p.default.map fun value => "[default: " ++ value ++ "]").toList

private def valuesNote (p : Parameter) : List String :=
  if p.alternatives.isEmpty then []
  else ["[possible values: " ++ ", ".intercalate (p.alternatives.map (·.name)) ++ "]"]

/-- The parameter with its description on one line. -/
def shortEntry (p : Parameter) : HelpEntry :=
  ("      " ++ p.text, " ".intercalate (p.help :: (p.defaultNote ++ p.valuesNote)))

/-- The parameter with its description and notes on lines of their own.  Values that have descriptions are listed. -/
def longEntry (p : Parameter) : HelpEntry :=
  let described := p.alternatives.filterMap fun a => a.help.map fun help => "- " ++ a.name ++ ": " ++ help
  let list := if described.isEmpty then "" else
    "\n\n" ++ ("\n" ++ indent).intercalate ((indent ++ "Possible values:") :: described)
  let notes := p.defaultNote ++ if described.isEmpty then p.valuesNote else []
  let notes := if notes.isEmpty then "" else "\n" ++ ("\n").intercalate ("" :: notes |>.map (indent ++ ·))
  ("      " ++ p.text, p.help ++ list ++ notes)

end Parameter

namespace CommandShape

/-- The parts of a help text with their titles. -/
private def parts (shape : CommandShape) (entry : Parameter → HelpEntry) (flag : HelpEntry) :
    List (String × List HelpEntry) :=
  let arguments := shape.operand.toList.map fun o => ("  " ++ o.text, o.help)
  let options := (shape.parameters.filter (·.heading.isNone)).map entry ++ [flag]
  let headings := (shape.parameters.filterMap (·.heading)).eraseDups
  let others := headings.map fun title => (title, (shape.parameters.filter (·.heading = some title)).map entry)
  [("Arguments", arguments), ("Options", options)].filter (!·.2.isEmpty) ++ others

private def assemble (shape : CommandShape) (opening : String) (parts : List (String × String)) : String :=
  let example_ := "Example:\n    " ++ shape.sample ++ "\n"
  "\n\n".intercalate (opening :: shape.usage :: parts.map (fun part => part.1 ++ ":\n" ++ part.2) ++ [example_])

def shortHelp (shape : CommandShape) : String :=
  shape.assemble shape.about <|
    (shape.parts Parameter.shortEntry shortHelpFlag).map fun part => (part.1, "\n".intercalate (columns part.2))

def longHelp (shape : CommandShape) : String :=
  shape.assemble shape.purpose <|
    (shape.parts Parameter.longEntry longHelpFlag).map fun part => (part.1, paragraphs part.2)

end CommandShape

/-- The help text of the program around its options. -/
private def programHelpWith (options : String) : String :=
  let commands := CommandShape.all.map (fun shape => ("  " ++ shape.name, shape.about)) ++
    [("  " ++ helpName, helpAbout)]
  program ++ " " ++ version ++ "\n" ++ about ++ "\n\nUSAGE:\n    " ++ program ++ " <COMMAND>\n\nOPTIONS:\n" ++
    options ++ "\nCOMMANDS:\n" ++ "\n".intercalate (columns commands) ++ "\n"

private def versionFlag : HelpEntry :=
  ("  -V, --version", "Print version")

def programShortHelp : String :=
  programHelpWith ("\n".intercalate (columns [shortHelpFlag, versionFlag]))

def programLongHelp : String :=
  programHelpWith (paragraphs [longHelpFlag, versionFlag])

/-- The help text of the command for help texts. -/
def helpHelp : String :=
  helpAbout ++ "\n\n" ++ helpUsage ++ "\n\nArguments:\n  [COMMAND]...  Print help for the subcommand(s)\n"

end FlowCheck.CommandLine
