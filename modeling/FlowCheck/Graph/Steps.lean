import FlowCheck.Graph.Closure
import FlowCheck.Model.Step

/-!
# The step graph

Nodes are the steps of a flow by their index.  A name leads to the first step that declares it; blank names lead
nowhere, and a later step with a declared name is shadowed.  Edges of the success path are the successors; routes for
reachability are the successors, the handler of failures and, from a step without `next`, the following step.
-/

namespace FlowCheck.Graph

/-- The index of the first step with an identifier that is not blank. -/
def declared? (steps : List Step) (id : String) : Option Nat :=
  if Text.blank id then none else steps.findIdx? (·.id == id)

/-- An earlier step has the same identifier. -/
def isShadowed (steps : List Step) (i : Nat) (step : Step) : Bool :=
  (declared? steps step.id).any (· != i)

/-- The steps that follow a step on its success path. -/
def successEdges (steps : List Step) (i : Nat) (step : Step) : List Nat :=
  if isShadowed steps i step then [] else step.successors.filterMap (declared? steps)

/-- The steps that a run can go to from a step. -/
def routes (steps : List Step) (i : Nat) (step : Step) : List Nat :=
  (step.successors ++ step.error.toList).filterMap (declared? steps) ++
    if step.next.isEmpty then [i + 1] else []

/-- Looks up the edges of each step. -/
def edgeTable (steps : List Step) (edges : List Step → Nat → Step → List Nat) : Nat → List Nat :=
  let table := (steps.mapIdx (edges steps)).toArray
  fun i => table.getD i []

/-- The cycles of two or more steps, as increasing lists of indices, by their first members. -/
def cycles (steps : List Step) : List (List Nat) :=
  components steps.length (edgeTable steps successEdges)

/-- The steps that a run can reach. -/
def reachableSteps (steps : List Step) : IndexSet :=
  reachable steps.length (edgeTable steps routes) 0

end FlowCheck.Graph
