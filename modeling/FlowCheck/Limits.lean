import FlowCheck.DocumentError
import FlowCheck.Schema.Basic

/-!
# Limits on the size of documents

A text is measured in bytes before it is read; a tree by its depth and by the lengths of its lists of steps,
triggers and policies.  `InputLimits.checkTree` reports the first bound that a tree exceeds, in the order depth,
steps, policies of the first step with too many, triggers.

The depth is measured no further than a little below the bound (`Value.depthWithin?`), so that a tree of any depth is
refused after a walk of bounded depth.
-/

namespace FlowCheck

namespace Value

mutual

/-- The depth of a tree, if the tree has at most the given number of levels. -/
def depthWithin? : Nat → Value → Option Nat
  | 0, _ => none
  | levels + 1, .list items => (depthWithinItems? levels items).map (1 + ·)
  | levels + 1, .object fields => (depthWithinFields? levels fields).map (1 + ·)
  | _ + 1, _ => some 1

def depthWithinItems? (levels : Nat) : List Value → Option Nat
  | [] => some 0
  | v :: vs => (depthWithin? levels v).bind fun depth => (depthWithinItems? levels vs).map (max depth)

def depthWithinFields? (levels : Nat) : List (String × Value) → Option Nat
  | [] => some 0
  | (_, v) :: fields => (depthWithin? levels v).bind fun depth => (depthWithinFields? levels fields).map (max depth)

end

end Value

structure InputLimits where
  maxInputBytes : UInt64 := 10485760
  maxNestingDepth : UInt64 := 64
  maxSteps : UInt64 := 1000
  maxTriggers : UInt64 := 100
  maxPoliciesPerStep : UInt64 := 32
  deriving DecidableEq

/-- A bound that a document exceeds, with the measure of the document. -/
inductive Excess where
  | bytes (size max : Nat)
  | depth (depth max : Nat)
  /-- So deep that the depth is not told. -/
  | farTooDeep (max : Nat)
  | steps (count max : Nat)
  | policies (step count max : Nat)
  | triggers (count max : Nat)
  deriving DecidableEq

def Excess.message : Excess → String
  | .bytes n bound => s!"document size ({n} bytes) exceeds maximum allowed ({bound} bytes)"
  | .depth n bound => s!"nesting depth ({n}) exceeds maximum allowed ({bound})"
  | .farTooDeep bound => s!"nesting depth exceeds maximum allowed ({bound})"
  | .steps n bound => s!"step count ({n}) exceeds maximum allowed ({bound})"
  | .policies i n bound => s!"steps[{i}] declares {n} policies, maximum allowed is {bound}"
  | .triggers n bound => s!"trigger count ({n}) exceeds maximum allowed ({bound})"

namespace InputLimits

/-- The depth up to which a tree is measured, so that a message tells how deep it is. -/
def toldDepth (limits : InputLimits) : Nat :=
  min (limits.maxNestingDepth.toNat + 8) 0xFFFFFFFFFFFFFFFF

def depthExcess? (limits : InputLimits) (tree : Value) : Option Excess :=
  let max := limits.maxNestingDepth.toNat
  match tree.depthWithin? limits.toldDepth with
  | some depth => if depth ≤ max then none else some (.depth depth max)
  | none => some (.farTooDeep max)

/-- The length of a list in a field; zero if there is none. -/
def listLength (tree : Value) (name : String) : Nat :=
  (((tree.get? name).bind Value.asList?).getD []).length

def stepsExcess? (limits : InputLimits) (tree : Value) : Option Excess :=
  let count := listLength tree "steps"
  if count ≤ limits.maxSteps.toNat then none else some (.steps count limits.maxSteps.toNat)

def policiesExcess? (limits : InputLimits) (tree : Value) : Option Excess :=
  let max := limits.maxPoliciesPerStep.toNat
  let steps := ((tree.get? "steps").bind Value.asList?).getD []
  (steps.mapIdx fun i step =>
    let count := listLength step "policies"
    if count ≤ max then none else some (Excess.policies i count max)).findSome? id

def triggersExcess? (limits : InputLimits) (tree : Value) : Option Excess :=
  let count := listLength tree "triggers"
  if count ≤ limits.maxTriggers.toNat then none else some (.triggers count limits.maxTriggers.toNat)

/-- The first bound that a tree exceeds. -/
def excess? (limits : InputLimits) (tree : Value) : Option Excess :=
  (limits.depthExcess? tree).or <| (limits.stepsExcess? tree).or <|
    (limits.policiesExcess? tree).or (limits.triggersExcess? tree)

def toResult : Option Excess → Except DocumentError Unit
  | none => .ok ()
  | some excess => .error (.limitExceeded excess.message)

/-- Accepts texts that are not too long. -/
def checkText (limits : InputLimits) (text : String) : Except DocumentError Unit :=
  toResult <|
    if text.utf8ByteSize ≤ limits.maxInputBytes.toNat then none
    else some (.bytes text.utf8ByteSize limits.maxInputBytes.toNat)

/-- Accepts trees within all bounds. -/
def checkTree (limits : InputLimits) (tree : Value) : Except DocumentError Unit :=
  toResult (limits.excess? tree)

/-- How limits are written in a configuration. -/
def record : Record InputLimits :=
  .of "InputLimits"
    (.cons (.withDefault "max_input_bytes" (.unsigned .w64) 10485760) <|
      .cons (.withDefault "max_nesting_depth" (.unsigned .w64) 64) <|
      .cons (.withDefault "max_steps" (.unsigned .w64) 1000) <|
      .cons (.withDefault "max_triggers" (.unsigned .w64) 100) <|
      .cons (.withDefault "max_policies_per_step" (.unsigned .w64) 32) .nil)
    (fun (maxInputBytes, maxNestingDepth, maxSteps, maxTriggers, maxPoliciesPerStep, ()) =>
      { maxInputBytes, maxNestingDepth, maxSteps, maxTriggers, maxPoliciesPerStep })
    (fun l => (l.maxInputBytes, l.maxNestingDepth, l.maxSteps, l.maxTriggers, l.maxPoliciesPerStep, ()))
    (fun _ => rfl) (fun _ => rfl)

end InputLimits

end FlowCheck
