import FlowCheck.Text.Blank
import FlowCheck.Text.Numeral

/-!
# Levels of log events

A threshold lets a level and all graver ones through, or nothing at all.
-/

namespace FlowCheck.Logging

/-- How grave an event is. -/
inductive Level where
  | error
  | warn
  | info
  | debug
  | trace
  deriving DecidableEq

namespace Level

/-- Errors are the gravest. -/
def rank : Level → Nat
  | error => 1
  | warn => 2
  | info => 3
  | debug => 4
  | trace => 5

/-- The level at the start of a log line. -/
def label : Level → String
  | error => "ERROR"
  | warn => " WARN"
  | info => " INFO"
  | debug => "DEBUG"
  | trace => "TRACE"

end Level

/-- The least grave level that is let through; none lets nothing through. -/
abbrev Threshold := Option Level

namespace Threshold

def allows (threshold : Threshold) (level : Level) : Bool :=
  threshold.any fun t => level.rank ≤ t.rank

/-- Thresholds by number, from nothing to everything. -/
def ranked : List Threshold :=
  [none, some .error, some .warn, some .info, some .debug, some .trace]

/-- Thresholds by name. -/
def named : List (String × Threshold) :=
  [("error", some .error), ("warn", some .warn), ("info", some .info), ("debug", some .debug),
    ("trace", some .trace), ("off", none)]

/-- The threshold with a number or a name in any case. -/
def ofText? (text : String) : Option Threshold :=
  match (Text.word64? text).bind fun n => ranked[n.toNat]? with
  | some threshold => some threshold
  | none => named.lookup (Text.lowerAscii text)

end Threshold

end FlowCheck.Logging
