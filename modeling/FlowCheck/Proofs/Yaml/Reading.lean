import FlowCheck.Proofs.Yaml.Nodes
import FlowCheck.Proofs.SortedTrees

/-!
# Reading a printed tree

A tree without doubles that is not too deep reads back from its text, with its mappings in the order of their keys
(`read_text`).  Its node holds no alias, so that what is left of the budget for them does not change.
-/

namespace FlowCheck.Yaml

variable {anchored : List (Nat × Node)} {depth left : Nat}

/-- The field of an entry. -/
def fieldOf (anchored : List (Nat × Node)) (depth : Nat) (entry : Node × Node) : Follow (String × Value) := do
  return (← keyText anchored entry.1, ← tree anchored depth entry.2)

theorem tree_scalar {v : Value} {plain : Bool} {text : String} (h : scalarValue {} plain text = .ok v) :
    tree anchored depth (.scalar {} plain text) left = .ok (v, left) := by
  have hread : tree anchored depth (.scalar {} plain text) left =
      (liftM (scalarValue {} plain text) : Follow Value) left := by
    cases depth <;> rfl
  rw [hread, h]
  rfl

theorem tree_token {v : Value} (hv : v.IsToken) :
    tree anchored depth (Node.ofTree v) left = .ok (v.sortKeys, left) := by
  have hnode : Node.ofTree v = .scalar {} (scalarOf v).1 (scalarOf v).2 := by
    cases v with
    | list vs => exact hv.elim
    | object fs => exact hv.elim
    | _ => rfl
  rw [hnode, tree_scalar (scalarValue_scalarOf hv), hv.sortKeys_eq]

theorem tree_list (items : List Node) : tree anchored (depth + 1) (.list {} items) left =
    (items.mapM (tree anchored depth) left).map fun read => (.list read.1, read.2) := by
  rfl

theorem tree_mapping (entries : List (Node × Node)) : tree anchored (depth + 1) (.mapping {} entries) left =
    (entries.mapM (fieldOf anchored depth) left).map fun read => (.ofFields read.1, read.2) := by
  rfl

theorem mapM_cons {α β : Type} {f : α → Follow β} {a : α} {as : List α} {b : β} {bs : List β}
    (ha : f a left = .ok (b, left)) (has : as.mapM f left = .ok (bs, left)) :
    (a :: as).mapM f left = .ok (b :: bs, left) := by
  rw [List.mapM_cons]
  simp only [bind, StateT.bind, Except.bind, ha, has]
  rfl

theorem fieldOf_scalar {v : Value} {node : Node} (key : String) (plain : Bool)
    (h : tree anchored depth node left = .ok (v, left)) :
    fieldOf anchored depth (.scalar {} plain key, node) left = .ok ((key, v), left) := by
  have hread : fieldOf anchored depth (.scalar {} plain key, node) left =
      (tree anchored depth node left).map fun read => ((key, read.1), read.2) := by
    rfl
  rw [hread, h]
  rfl

mutual

/-- The tree of a printed node. -/
theorem tree_ofTree (depth : Nat) : (v : Value) → v.FloatFree → v.depth ≤ depth →
    tree anchored depth (Node.ofTree v) left = .ok (v.sortKeys, left)
  | .null, _, _ | .bool _, _, _ | .int _, _, _ | .string _, _, _ => tree_token trivial
  | .float _, h, _ => h.elim
  | .list vs, h, hdepth => by
    rw [Value.depth] at hdepth
    obtain ⟨depth, rfl⟩ := Nat.exists_eq_add_of_le' (by omega : 1 ≤ depth)
    rw [Node.ofTree, tree_list, mapM_ofItems depth vs h (by omega), Value.sortKeys]
    rfl
  | .object fs, h, hdepth => by
    rw [Value.depth] at hdepth
    obtain ⟨depth, rfl⟩ := Nat.exists_eq_add_of_le' (by omega : 1 ≤ depth)
    rw [Node.ofTree, tree_mapping, mapM_ofFields depth fs h (by omega), Value.sortKeys]
    rfl

theorem mapM_ofItems (depth : Nat) : (vs : List Value) → Value.FloatFreeItems vs → Value.depthItems vs ≤ depth →
    (Node.ofItems vs).mapM (tree anchored depth) left = .ok (Value.sortKeysItems vs, left)
  | [], _, _ => rfl
  | v :: vs, h, hdepth => by
    rw [Value.depthItems] at hdepth
    exact mapM_cons (tree_ofTree depth v h.1 (by omega)) (mapM_ofItems depth vs h.2 (by omega))

theorem mapM_ofFields (depth : Nat) : (fs : List (String × Value)) → Value.FloatFreeFields fs →
    Value.depthFields fs ≤ depth →
    (Node.ofFields fs).mapM (fieldOf anchored depth) left = .ok (Value.sortKeysFields fs, left)
  | [], _, _ => rfl
  | (k, v) :: fs, h, hdepth => by
    rw [Value.depthFields] at hdepth
    exact mapM_cons (fieldOf_scalar k _ (tree_ofTree depth v h.1 (by omega))) (mapM_ofFields depth fs h.2 (by omega))

end

/-- The text of a tree without doubles is read as the tree with its mappings in the order of their keys. -/
theorem read_text {v : Value} (hv : v.FloatFree) (hdepth : v.depth ≤ 128) : read (text v) = .ok v.sortKeys := by
  have htree : ∀ anchored left, tree anchored 128 (Node.ofTree v) left = .ok (v.sortKeys, left) := fun _ _ =>
    tree_ofTree 128 v hv hdepth
  simp only [read, Token.ofText_text hv, Node.ofTokens_ofTree, bind, Except.bind]
  rw [StateT.run, htree]
  rfl

end FlowCheck.Yaml
