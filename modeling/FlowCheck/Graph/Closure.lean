import FlowCheck.Graph.IndexSet

/-!
# Reachability among indices

`closure size next todo seen` adds to `seen` all indices below `size` that can be reached from `todo` along `next`
without passing through `seen`.
-/

namespace FlowCheck.Graph

/-- Searches on from the indices in `todo`. -/
def closure (size : Nat) (next : Nat → List Nat) (todo : List Nat) (seen : IndexSet) : IndexSet :=
  match todo with
  | [] => seen
  | i :: todo =>
    if i < size ∧ seen.contains i = false then closure size next (next i ++ todo) (seen.insert i)
    else closure size next todo seen
termination_by (seen.missing size, todo.length)
decreasing_by
  · rename_i h
    exact Prod.Lex.left _ _ (IndexSet.missing_insert_lt h.1 h.2)
  · exact Prod.Lex.right _ (by simp)

/-- The indices below `size` that can be reached from one of them, itself among them. -/
def reachable (size : Nat) (next : Nat → List Nat) (start : Nat) : IndexSet :=
  closure size next [start] .empty

/-- The sets of at least two indices that all reach each other, each in increasing order, in the order of their first
members. -/
def components (size : Nat) (next : Nat → List Nat) : List (List Nat) :=
  let reached : Array IndexSet := Array.ofFn fun i : Fin size => reachable size next i
  let reaches (i j : Nat) : Bool := (reached.getD i .empty).contains j
  (List.range size).filterMap fun i =>
    match (List.range size).filter fun j => reaches i j && reaches j i with
    | first :: second :: rest => if first = i then some (first :: second :: rest) else none
    | _ => none

end FlowCheck.Graph
