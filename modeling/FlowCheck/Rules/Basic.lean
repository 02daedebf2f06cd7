import FlowCheck.Finding.Basic
import FlowCheck.Text.Blank

/-!
# Checks that several rules share

A text that is required must not be blank, a number that is required to be positive must not be zero.
-/

namespace FlowCheck.Rules

/-- Reports a blank text in a field. -/
def requireText (path : Path) (field : String) (code : Code) (message : String) (text : String) : List Finding :=
  Finding.when (Text.blank text) (.error (path.field field) code message)

/-- Reports a field when `zero` holds of it. -/
def requirePositive (path : Path) (field : String) (code : Code) (zero : Bool) : List Finding :=
  Finding.when zero (.error (path.field field) code s!"{field} must be greater than 0")

/-- Reports a list that has no text that is not blank. -/
def requireSome (path : Path) (field : String) (code : Code) (message : String) (texts : List String) :
    List Finding :=
  Finding.when (texts.all Text.blank) (.error (path.field field) code message)

/-- Reports a quality of service that is not one of the three levels of MQTT. -/
def requireQos (path : Path) (qos : UInt32) : List Finding :=
  Finding.when (2 < qos) (.error (path.field "qos") .mqttQosInvalid s!"MQTT QoS must be 0, 1 or 2, got {qos}")

/-- Reports an address that does not start, after blanks, with the scheme of database addresses. -/
def requireJdbc (path : Path) (code : Code) (url : String) : List Finding :=
  Finding.when (!"jdbc:".toList.isPrefixOf (url.toList.dropWhile Text.isBlank))
    (.error (path.field "url") code s!"'{url}' is not a jdbc: URL")

end FlowCheck.Rules
