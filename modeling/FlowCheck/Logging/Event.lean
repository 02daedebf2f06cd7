import FlowCheck.Logging.Level
import FlowCheck.Text.Hex

/-!
# Log events

An event is written on one line: the time, the level, the message and the fields.  Control characters of the message
that could steer a terminal are escaped.
-/

namespace FlowCheck.Logging

structure Event where
  level : Level
  /-- The part of the program that speaks, as a path of names. -/
  target : String
  message : String
  /-- Names and texts of the values that the event shows. -/
  fields : List (String × String) := []
  deriving DecidableEq

/-- A character of a message. -/
def escaped (c : Char) : List Char :=
  let n := c.toNat
  if n = 0x07 ∨ n = 0x08 ∨ n = 0x0C ∨ n = 0x1B ∨ n = 0x7F then '\\' :: 'x' :: Text.hexPadded 2 n
  else if 0x80 ≤ n ∧ n ≤ 0x9F then ['\\', 'u', '\x7b'] ++ Text.hex n ++ ['\x7d']
  else [c]

namespace Event

/-- The line of an event at a time. -/
def line (time : String) (event : Event) : String :=
  time ++ " " ++ event.level.label ++ " " ++ String.ofList (event.message.toList.flatMap escaped) ++
    String.join (event.fields.map fun field => " " ++ field.1 ++ "=" ++ field.2)

/-- The event shows a value under a name; the message is one of them. -/
def shows (event : Event) (name : String) : Bool :=
  name == "message" || event.fields.any (·.1 == name)

end Event

end FlowCheck.Logging
