import FlowCheck.Schema.Basic
import FlowCheck.Text.Blank

/-!
# The console

Log lines go to one of the standard streams or nowhere.  What a command is run for decides where they must not go.
-/

namespace FlowCheck.Logging

/-- Where log lines go. -/
inductive ConsoleOutput where
  | stdout
  | stderr
  | nowhere
  deriving DecidableEq

namespace ConsoleOutput

def name : ConsoleOutput → String
  | stdout => "stdout"
  | stderr => "stderr"
  | nowhere => "none"

def choices : Choices ConsoleOutput where
  values := [stdout, stderr, nowhere]
  name := name
  find_name a := by cases a <;> rfl

/-- The output with a name in any case and between blanks. -/
def ofText (text : String) : Except String ConsoleOutput :=
  match choices.ofName? (Text.lowerAscii (Text.trim text)) with
  | some output => .ok output
  | none => .error s!"invalid console output '{text}'; expected stdout, stderr or none"

end ConsoleOutput

/-- What a command is run for. -/
inductive Context where
  | interactive
  | continuousIntegration
  /-- Another program reads what the command writes. -/
  | machineOutput
  deriving DecidableEq

namespace Context

def name : Context → String
  | interactive => "Interactive"
  | continuousIntegration => "Ci"
  | machineOutput => "MachineOutput"

/-- The value of the variable `CI` switches it on. -/
def isOn (value : String) : Bool :=
  ["1", "true", "TRUE", "True"].contains (Text.trim value)

/-- The context of a command, from whether another program reads its output and the variable `CI`. -/
def detect (forMachine : Bool) (ci : Option String) : Context :=
  if forMachine then machineOutput else if ci.any isOn then continuousIntegration else interactive

/-- Where log lines go: not between the lines that another program reads. -/
def select (context : Context) (configured : Option ConsoleOutput) : ConsoleOutput :=
  if context = machineOutput ∧ configured = some .stdout then .stderr else configured.getD .stderr

end Context

end FlowCheck.Logging
