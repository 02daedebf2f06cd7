import FlowCheck.Logging.Directive

/-!
# Filters

A filter is a list of directives with commas between them.  Of those that concern an event, the most specific one
decides; of two that are alike, the later.
-/

namespace FlowCheck.Logging

structure Filter where
  directives : List Directive

namespace Filter

/-- The filter that a text stands for, if all its directives can be read; empty ones do not count. -/
def ofText? (text : String) : Option Filter :=
  (((text.splitOn ",").filter (!·.isEmpty)).mapM Directive.ofText?).map Filter.mk

/-- The directive that decides about an event. -/
def deciding? (filter : Filter) (event : Event) : Option Directive :=
  (filter.directives.filter (·.concerns event)).foldl
    (fun best d => match best with
      | some b => if d.isLess b then some b else some d
      | none => some d)
    none

/-- The event is logged. -/
def allows (filter : Filter) (event : Event) : Bool :=
  (filter.deciding? event).any fun directive => directive.threshold.allows event.level

end Filter

end FlowCheck.Logging
