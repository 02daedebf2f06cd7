import FlowCheck.Proofs.Yaml.Tokens

/-!
# Nodes of a printed tree

The tokens of a tree are parsed as its node (`parses`), which has no properties and no aliases (`Node.ofTree`).  Each
token takes at most three steps, so that there is fuel enough.  A tree ends with its own last token, save for a list
under a key, which is followed by no further mark of an element.
-/

namespace FlowCheck.Yaml

mutual

/-- The node that a tree is printed as. -/
def Node.ofTree : Value → Node
  | .list vs => .list {} (Node.ofItems vs)
  | .object fields => .mapping {} (Node.ofFields fields)
  | v => .scalar {} (scalarOf v).1 (scalarOf v).2

def Node.ofItems : List Value → List Node
  | [] => []
  | v :: vs => Node.ofTree v :: Node.ofItems vs

def Node.ofFields : List (String × Value) → List (Node × Node)
  | [] => []
  | (k, v) :: fields => (.scalar {} (Printer.style k == .plain) k, Node.ofTree v) :: Node.ofFields fields

end

/-- The token begins a node without properties. -/
def IsStart : Token → Bool
  | .scalar _ _ | .listStart | .mappingStart | .blockListStart | .blockMappingStart | .entry => true
  | _ => false

section Steps

variable {fuel : Nat} {handles : Handles} {block indentless : Bool} {a b c d : NodeState} {item key value : Node}
  {items : List Node} {entries : List (Node × Node)} {ends : List Token}

theorem nodeUnless_of_notMem (h : a.peek ∉ ends) :
    nodeUnless (fuel + 1) handles block indentless ends a = node fuel handles block indentless a := by
  rw [nodeUnless, if_neg (mt List.contains_iff_mem.1 h)]

theorem blockItems_entry (hentry : a.peek = .entry) (hpeek : a.skip.peek ∉ [Token.entry, .blockEnd])
    (hitem : node fuel handles true false a.skip = .ok (item, b))
    (hmore : blockItems (fuel + 1) handles b = .ok (items, c)) :
    blockItems (fuel + 2) handles a = .ok (item :: items, c) := by
  rw [blockItems]
  simp only [hentry, nodeUnless_of_notMem hpeek, hitem, hmore, bind, Except.bind]
  rfl

theorem indentlessItems_entry (hentry : a.peek = .entry)
    (hpeek : a.skip.peek ∉ [Token.entry, .key, .value, .blockEnd])
    (hitem : node fuel handles true false a.skip = .ok (item, b))
    (hmore : indentlessItems (fuel + 1) handles b = .ok (items, c)) :
    indentlessItems (fuel + 2) handles a = .ok (item :: items, c) := by
  rw [indentlessItems]
  simp only [hentry, nodeUnless_of_notMem hpeek, hitem, hmore, bind, Except.bind]
  rfl

theorem blockEntries_key (ha : a.peek = .key) (hkey : a.skip.peek ∉ [Token.key, .value, .blockEnd])
    (hnode : node fuel handles true true a.skip = .ok (key, b)) (hb : b.peek = .value)
    (hvalue : b.skip.peek ∉ [Token.key, .value, .blockEnd])
    (hnext : node fuel handles true true b.skip = .ok (value, c))
    (hmore : blockEntries (fuel + 1) handles c = .ok (entries, d)) :
    blockEntries (fuel + 2) handles a = .ok ((key, value) :: entries, d) := by
  rw [blockEntries]
  simp only [ha, nodeUnless_of_notMem hkey, hnode, hb, nodeUnless_of_notMem hvalue, hnext, hmore, bind, Except.bind,
    if_true]
  rfl

end Steps

/-! ### Trees -/

/-- A tree begins with a token that begins a node; behind a mark it is no mark of an element. -/
theorem head_ofTree (place : Printer.Place) (v : Value) :
    ∃ t toks, Token.ofTree place v = t :: toks ∧ IsStart t = true ∧ (place = .mark → t ≠ .entry) := by
  cases v with
  | list vs =>
    cases vs with
    | nil => exact ⟨_, _, rfl, rfl, fun _ => by decide⟩
    | cons v vs =>
      cases place with
      | key => exact ⟨_, _, rfl, rfl, fun h => nomatch h⟩
      | root => exact ⟨_, _, rfl, rfl, fun h => nomatch h⟩
      | mark => exact ⟨_, _, rfl, rfl, fun _ => by decide⟩
  | object fields =>
    cases fields with
    | nil => exact ⟨_, _, rfl, rfl, fun _ => by decide⟩
    | cons field fields => exact ⟨_, _, rfl, rfl, fun _ => by decide⟩
  | _ => exact ⟨_, _, rfl, rfl, by simp⟩

theorem peek_ofTree (place : Printer.Place) (v : Value) (rest : List Token) (anchors : List (String × Nat)) :
    (NodeState.mk (Token.ofTree place v ++ rest) anchors).peek ∉ [Token.key, .value, .blockEnd] ∧
      (place = .mark → (NodeState.mk (Token.ofTree place v ++ rest) anchors).peek ≠ .entry) := by
  obtain ⟨t, toks, htoks, ht, hentry⟩ := head_ofTree place v
  rw [htoks]
  refine ⟨fun hmem => ?_, hentry⟩
  have hmem : t ∈ [Token.key, .value, .blockEnd] := hmem
  simp only [List.mem_cons, List.not_mem_nil, or_false] at hmem
  rcases hmem with rfl | rfl | rfl <;> cases ht

/-- The tokens of a tree are parsed as its node. -/
def Parses (place : Printer.Place) (v : Value) : Prop :=
  ∀ ⦃fuel : Nat⦄ ⦃handles : Handles⦄ ⦃indentless : Bool⦄ ⦃rest : List Token⦄ ⦃anchors : List (String × Nat)⦄,
    (place = .key → indentless = true ∧ rest.head? ≠ some .entry) → 3 * (Token.ofTree place v).length ≤ fuel →
      node fuel handles true indentless ⟨Token.ofTree place v ++ rest, anchors⟩ = .ok (Node.ofTree v, ⟨rest, anchors⟩)

/-- The tokens of elements are parsed as their nodes, up to the end of their block or what comes behind them. -/
structure ParsesItems (vs : List Value) : Prop where
  block : ∀ ⦃fuel : Nat⦄ ⦃handles : Handles⦄ ⦃rest : List Token⦄ ⦃anchors : List (String × Nat)⦄,
    3 * (Token.ofItems vs).length ≤ fuel + 2 →
      blockItems (fuel + 1) handles ⟨Token.ofItems vs ++ .blockEnd :: rest, anchors⟩ =
        .ok (Node.ofItems vs, ⟨rest, anchors⟩)
  indentless : ∀ ⦃fuel : Nat⦄ ⦃handles : Handles⦄ ⦃rest : List Token⦄ ⦃anchors : List (String × Nat)⦄,
    rest.head? ≠ some .entry → 3 * (Token.ofItems vs).length ≤ fuel + 2 →
      indentlessItems (fuel + 1) handles ⟨Token.ofItems vs ++ rest, anchors⟩ = .ok (Node.ofItems vs, ⟨rest, anchors⟩)

def ParsesFields (fs : List (String × Value)) : Prop :=
  ∀ ⦃fuel : Nat⦄ ⦃handles : Handles⦄ ⦃rest : List Token⦄ ⦃anchors : List (String × Nat)⦄,
    3 * (Token.ofFields fs).length ≤ fuel + 2 →
      blockEntries (fuel + 1) handles ⟨Token.ofFields fs ++ .blockEnd :: rest, anchors⟩ =
        .ok (Node.ofFields fs, ⟨rest, anchors⟩)

variable {place : Printer.Place} {v : Value} {vs : List Value} {f : String × Value} {fs : List (String × Value)}

theorem parses_scalar (hv : ∀ place, Token.ofTree place v = [.scalar (scalarOf v).1 (scalarOf v).2])
    (hnode : Node.ofTree v = .scalar {} (scalarOf v).1 (scalarOf v).2) (place : Printer.Place) : Parses place v := by
  intro fuel handles indentless rest anchors _ hfuel
  rw [hv] at hfuel ⊢
  obtain ⟨fuel, rfl⟩ := Nat.exists_eq_add_of_le' (Nat.le_trans (by simp) hfuel : 1 ≤ fuel)
  rw [hnode]
  rfl

theorem parses_emptyList (place : Printer.Place) : Parses place (.list []) := by
  intro fuel handles indentless rest anchors _ hfuel
  obtain ⟨fuel, rfl⟩ := Nat.exists_eq_add_of_le' (Nat.le_trans (by simp [Token.ofTree]) hfuel : 2 ≤ fuel)
  rfl

theorem parses_emptyObject (place : Printer.Place) : Parses place (.object []) := by
  intro fuel handles indentless rest anchors _ hfuel
  obtain ⟨fuel, rfl⟩ := Nat.exists_eq_add_of_le' (Nat.le_trans (by simp [Token.ofTree]) hfuel : 2 ≤ fuel)
  rfl

theorem ofTree_list (h : place ≠ .key) (v : Value) (vs : List Value) :
    Token.ofTree place (.list (v :: vs)) = .blockListStart :: (Token.ofItems (v :: vs) ++ [.blockEnd]) := by
  cases place with
  | key => exact absurd rfl h
  | _ => rfl

theorem ParsesItems.list (h : ParsesItems (v :: vs)) (place : Printer.Place) : Parses place (.list (v :: vs)) := by
  intro fuel handles indentless rest anchors hkey hfuel
  by_cases hplace : place = .key
  · subst hplace
    obtain ⟨rfl, hrest⟩ := hkey rfl
    have hstep : ∀ fuel, node (fuel + 1) handles true true ⟨Token.ofItems (v :: vs) ++ rest, anchors⟩ =
        (indentlessItems fuel handles ⟨Token.ofItems (v :: vs) ++ rest, anchors⟩).map
          fun read => (.list {} read.1, read.2) :=
      fun _ => rfl
    have htoks : Token.ofTree .key (.list (v :: vs)) = Token.ofItems (v :: vs) := rfl
    rw [htoks] at hfuel ⊢
    obtain ⟨fuel, rfl⟩ := Nat.exists_eq_add_of_le' (Nat.le_trans (by simp [Token.ofItems]; omega) hfuel : 2 ≤ fuel)
    rw [hstep, h.indentless hrest hfuel]
    rfl
  · have hstep : ∀ fuel toks, node (fuel + 1) handles true indentless ⟨.blockListStart :: toks, anchors⟩ =
        (blockItems fuel handles ⟨toks, anchors⟩).map fun read => (.list {} read.1, read.2) := fun _ _ => rfl
    rw [ofTree_list hplace] at hfuel ⊢
    simp only [List.length_cons, List.length_append] at hfuel
    obtain ⟨fuel, rfl⟩ := Nat.exists_eq_add_of_le' (by omega : 2 ≤ fuel)
    rw [List.cons_append, List.append_assoc, List.singleton_append, hstep, h.block (by omega)]
    rfl

theorem ParsesFields.object (h : ParsesFields (f :: fs)) (place : Printer.Place) :
    Parses place (.object (f :: fs)) := by
  intro fuel handles indentless rest anchors hkey hfuel
  have hstep : ∀ fuel toks, node (fuel + 1) handles true indentless ⟨.blockMappingStart :: toks, anchors⟩ =
      (blockEntries fuel handles ⟨toks, anchors⟩).map fun read => (.mapping {} read.1, read.2) := fun _ _ => rfl
  have htoks : Token.ofTree place (.object (f :: fs)) =
      .blockMappingStart :: (Token.ofFields (f :: fs) ++ [.blockEnd]) := rfl
  rw [htoks] at hfuel ⊢
  simp only [List.length_cons, List.length_append] at hfuel
  obtain ⟨fuel, rfl⟩ := Nat.exists_eq_add_of_le' (by omega : 2 ≤ fuel)
  rw [List.cons_append, List.append_assoc, List.singleton_append, hstep, h (by omega)]
  rfl

theorem indentlessItems_nil {fuel : Nat} {handles : Handles} {a : NodeState} (h : a.peek ≠ .entry) :
    indentlessItems (fuel + 1) handles a = .ok ([], a) := by
  unfold indentlessItems
  split
  · rename_i heq
    exact absurd heq h
  · rfl

theorem ParsesItems.nil : ParsesItems [] where
  block _ _ _ _ _ := rfl
  indentless fuel handles rest anchors hrest _ := by
    refine indentlessItems_nil fun h => hrest ?_
    cases rest with
    | nil => cases h
    | cons t rest => exact congrArg some h

theorem ParsesItems.cons (hv : Parses .mark v) (hvs : ParsesItems vs) : ParsesItems (v :: vs) where
  block fuel handles rest anchors hfuel := by
    simp only [Token.ofItems, List.length_cons, List.length_append] at hfuel
    obtain ⟨fuel, rfl⟩ := Nat.exists_eq_add_of_le' (by omega : 1 ≤ fuel)
    have htoks : Token.ofItems (v :: vs) ++ .blockEnd :: rest =
        .entry :: (Token.ofTree .mark v ++ (Token.ofItems vs ++ .blockEnd :: rest)) := by
      simp [Token.ofItems]
    obtain ⟨hpeek, hentry⟩ := peek_ofTree .mark v (Token.ofItems vs ++ .blockEnd :: rest) anchors
    rw [htoks]
    refine blockItems_entry rfl ?_ (hv (fun h => nomatch h) (by omega)) (hvs.block (by omega))
    simp_all [NodeState.skip]
  indentless fuel handles rest anchors hrest hfuel := by
    simp only [Token.ofItems, List.length_cons, List.length_append] at hfuel
    obtain ⟨fuel, rfl⟩ := Nat.exists_eq_add_of_le' (by omega : 1 ≤ fuel)
    have htoks : Token.ofItems (v :: vs) ++ rest = .entry :: (Token.ofTree .mark v ++ (Token.ofItems vs ++ rest)) := by
      simp [Token.ofItems]
    obtain ⟨hpeek, hentry⟩ := peek_ofTree .mark v (Token.ofItems vs ++ rest) anchors
    rw [htoks]
    refine indentlessItems_entry rfl ?_ (hv (fun h => nomatch h) (by omega)) (hvs.indentless hrest (by omega))
    simp_all [NodeState.skip]

theorem ParsesFields.nil : ParsesFields [] := fun _ _ _ _ _ => rfl

theorem ParsesFields.cons (hv : ∀ place, Parses place f.2) (hfs : ParsesFields fs) : ParsesFields (f :: fs) := by
  intro fuel handles rest anchors hfuel
  obtain ⟨k, v⟩ := f
  replace hv : ∀ place, Parses place v := hv
  obtain ⟨place, htoks⟩ : ∃ place, Token.ofFields ((k, v) :: fs) =
      .key :: TokenState.textToken k :: .value :: (Token.ofTree place v ++ Token.ofFields fs) := by
    by_cases hk : Printer.isSimpleKey k = true
    · exact ⟨.key, by rw [Token.ofFields, if_pos hk]⟩
    · exact ⟨.mark, by rw [Token.ofFields, if_neg hk]⟩
  rw [htoks] at hfuel ⊢
  simp only [List.length_cons, List.length_append] at hfuel
  obtain ⟨fuel, rfl⟩ := Nat.exists_eq_add_of_le' (by omega : 2 ≤ fuel)
  obtain ⟨hpeek, -⟩ := peek_ofTree place v (Token.ofFields fs ++ .blockEnd :: rest) anchors
  have hnext : (Token.ofFields fs ++ .blockEnd :: rest).head? ≠ some .entry := by
    cases fs <;> simp [Token.ofFields]
  have hvalue : node (fuel + 1) handles true true
      ⟨Token.ofTree place v ++ (Token.ofFields fs ++ .blockEnd :: rest), anchors⟩ =
        .ok (Node.ofTree v, ⟨Token.ofFields fs ++ .blockEnd :: rest, anchors⟩) :=
    hv place (fun _ => ⟨rfl, hnext⟩) (by omega)
  simp only [List.cons_append, List.append_assoc]
  refine blockEntries_key rfl ?_ rfl rfl hpeek hvalue (hfs (by omega))
  simp [NodeState.skip, NodeState.peek, TokenState.textToken]

mutual

theorem parses : (v : Value) → (place : Printer.Place) → Parses place v
  | .null | .bool _ | .int _ | .string _ | .float _ => parses_scalar (fun _ => rfl) rfl
  | .list [] => parses_emptyList
  | .list (v :: vs) => (parsesItems (v :: vs)).list
  | .object [] => parses_emptyObject
  | .object (f :: fs) => (parsesFields (f :: fs)).object

theorem parsesItems : (vs : List Value) → ParsesItems vs
  | [] => .nil
  | v :: vs => .cons (parses v .mark) (parsesItems vs)

theorem parsesFields : (fs : List (String × Value)) → ParsesFields fs
  | [] => .nil
  | (k, v) :: fs => ParsesFields.cons (f := (k, v)) (parses v) (parsesFields fs)

end

/-- The document of a tree is its node. -/
theorem Node.ofTokens_ofTree (v : Value) :
    Node.ofTokens (Token.ofTree .root v ++ [.streamEnd]) = .ok (some (Node.ofTree v)) := by
  have hnode : node (3 * (Token.ofTree .root v ++ [Token.streamEnd]).length + 3) standardHandles true false
      ⟨Token.ofTree .root v ++ [.streamEnd], []⟩ = .ok (Node.ofTree v, ⟨[.streamEnd], []⟩) :=
    parses v .root (fun h => nomatch h) (by simp only [List.length_append]; omega)
  obtain ⟨t, toks, htoks, ht, -⟩ := head_ofTree .root v
  rw [htoks, List.cons_append] at hnode ⊢
  have hdirectives : Directives.ofTokens {} (t :: (toks ++ [.streamEnd])) = .ok ({}, t :: (toks ++ [.streamEnd])) := by
    cases t <;> first | rfl | cases ht
  simp only [Node.ofTokens, hdirectives, bind, Except.bind]
  split
  · rename_i heq
    cases (List.cons.inj heq).1
    cases ht
  · rename_i heq
    cases (List.cons.inj heq).1
    cases ht
  · simp only [List.nil_append, hnode, if_true]
    rfl

end FlowCheck.Yaml
