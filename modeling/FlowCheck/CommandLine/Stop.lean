import FlowCheck.CommandLine.Help

/-!
# Command lines that run no command

A command line stops with a help text, with the version, or with an error, which may give hints and tells how to call
the program.
-/

namespace FlowCheck.CommandLine

/-- A hint at what may have been meant. -/
inductive Hint where
  | argument (name : String)
  /-- An argument of another command. -/
  | argumentOf (command name : String)
  /-- The argument was meant as an operand. -/
  | asOperand (argument : String)
  /-- A command stands after two hyphens. -/
  | dropHyphens (command : String)
  | value (name : String)
  | commands (names : List String)
  deriving DecidableEq

def Hint.text : Hint → String
  | .argument name => s!"a similar argument exists: '--{name}'"
  | .argumentOf command name => s!"'{command} --{name}' exists"
  | .asOperand given => s!"to pass '{given}' as a value, use '-- {given}'"
  | .dropHyphens command => s!"subcommand '{command}' exists; to use it, remove the '--' before it"
  | .value name => s!"a similar value exists: '{name}'"
  | .commands names =>
    (if names.length = 1 then "a similar subcommand exists: " else "some similar subcommands exist: ") ++
      ", ".intercalate (names.map fun name => s!"'{name}'")

/-- Why a command line runs no command. -/
inductive Stop where
  | help (text : String)
  /-- Nothing was asked for. -/
  | helpInstead (text : String)
  | version
  | unexpected (argument : String) (hint : Option Hint) (usage : String)
  | unexpectedValue (value argument usage : String)
  | noValue (argument : String) (alternatives : List String)
  | badValue (value argument : String) (alternatives : List String) (hint : Option Hint)
  | repeated (argument usage : String)
  | missing (argument usage : String)
  | unknownCommand (name : String) (hint : Option Hint) (usage : String)
  deriving DecidableEq

namespace Stop

private def listed (alternatives : List String) : String :=
  if alternatives.isEmpty then "" else "\n  [possible values: " ++ ", ".intercalate alternatives ++ "]"

/-- The text of an error. -/
private def errorText (message : String) (hint : Option Hint) (usage : Option String) : String :=
  let tip := (hint.map fun h => "\n\n  tip: " ++ h.text).getD ""
  let usage := (usage.map ("\n\n" ++ ·)).getD ""
  "error: " ++ message ++ tip ++ usage ++ "\n\nFor more information, try '--help'.\n"

/-- What is printed. -/
def text : Stop → String
  | help text => text
  | helpInstead text => text
  | .version => program ++ " " ++ CommandLine.version ++ "\n"
  | unexpected argument hint usage => errorText s!"unexpected argument '{argument}' found" hint usage
  | unexpectedValue value argument usage =>
    errorText s!"unexpected value '{value}' for '{argument}' found; no more were expected" none usage
  | noValue argument alternatives =>
    errorText (s!"a value is required for '{argument}' but none was supplied" ++ listed alternatives) none none
  | badValue value argument alternatives hint =>
    errorText (s!"invalid value '{value}' for '{argument}'" ++ listed alternatives) hint none
  | repeated argument usage => errorText s!"the argument '{argument}' cannot be used multiple times" none usage
  | missing argument usage =>
    errorText ("the following required arguments were not provided:\n  " ++ argument) none usage
  | unknownCommand name hint usage => errorText s!"unrecognized subcommand '{name}'" hint usage

/-- The command line asked for what is printed. -/
def isAnswer : Stop → Bool
  | help _ => true
  | .version => true
  | _ => false

end Stop

end FlowCheck.CommandLine
