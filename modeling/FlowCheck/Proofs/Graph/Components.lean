import FlowCheck.Proofs.Graph.Declarations

/-!
# Cycles are strongly connected components

The components of a search are the classes of two or more indices that reach each other (`mem_components_iff`), each
listed once, at its first member.  The edges that the search for cycles follows lead from a step that is not a later
duplicate to the first declarations of the names that it routes to (`edge_successEdges_iff`).  So the cycles of a flow
are exactly the strongly connected components of two or more steps of its success graph (`cycles_listsComponents`).
-/

namespace FlowCheck.Graph

/-- The lists are the sets of two or more indices below the size that reach each other, without repetition and in
order. -/
structure ListsComponents (size : Nat) (edge : Nat → Nat → Prop) (components : List (List Nat)) : Prop where
  two_le_length : ∀ members ∈ components, 2 ≤ members.length
  increasing : ∀ members ∈ components, members.Pairwise (· < ·)
  lt_size : ∀ members ∈ components, ∀ i ∈ members, i < size
  disjoint : components.Pairwise List.Disjoint
  ordered : components.Pairwise fun a b => a.headD 0 < b.headD 0
  together_iff : ∀ i j, i ≠ j →
    ((∃ members ∈ components, i ∈ members ∧ j ∈ members) ↔
      Relation.ReflTransGen edge i j ∧ Relation.ReflTransGen edge j i)

/-! ### Components of a search -/

section Components

variable {size : Nat} {next : Nat → List Nat} {members : List Nat} {i j : Nat}

/-- Only indices can be reached from another one. -/
theorem Reaches.lt_size (h : Reaches size next i j) (hne : i ≠ j) : j < size := by
  rcases Relation.ReflTransGen.cases_tail h with heq | ⟨k, -, hedge⟩
  · exact absurd heq.symm hne
  · exact hedge.2

theorem self_mem_linkedTo (hi : i < size) : i ∈ linkedTo size next i :=
  (mem_linkedTo hi).2 ⟨hi, .refl, .refl⟩

theorem linkedTo_increasing (size : Nat) (next : Nat → List Nat) (i : Nat) :
    (linkedTo size next i).Pairwise (· < ·) :=
  List.pairwise_lt_range.filter _

/-- The components are the classes of two or more indices. -/
theorem mem_components_iff :
    members ∈ components size next ↔ 2 ≤ members.length ∧ ∃ i < size, linkedTo size next i = members := by
  rw [components_eq, List.mem_filterMap]
  constructor
  · rintro ⟨i, hi, hmembers⟩
    rcases hclass : linkedTo size next i with _ | ⟨first, _ | ⟨second, rest⟩⟩
    · rw [hclass] at hmembers
      cases hmembers
    · rw [hclass] at hmembers
      cases hmembers
    · rw [hclass] at hmembers
      simp only [Option.ite_none_right_eq_some, Option.some.injEq] at hmembers
      obtain ⟨-, rfl⟩ := hmembers
      exact ⟨by simp, i, List.mem_range.1 hi, hclass⟩
  · rintro ⟨hlength, i, hi, hclass⟩
    rcases members with _ | ⟨first, _ | ⟨second, rest⟩⟩
    · simp at hlength
    · simp at hlength
    · -- the class is listed at its first member
      obtain ⟨hfirst, hto, hback⟩ := (mem_linkedTo (j := first) hi).1 (by rw [hclass]; exact List.mem_cons_self)
      refine ⟨first, List.mem_range.2 hfirst, ?_⟩
      rw [← linkedTo_congr hi hfirst hto hback, hclass]
      simp

/-- A component is the class of each of its members. -/
theorem linkedTo_of_mem (hmembers : members ∈ components size next) (hi : i ∈ members) :
    i < size ∧ linkedTo size next i = members := by
  obtain ⟨-, k, hk, rfl⟩ := mem_components_iff.1 hmembers
  obtain ⟨hlt, hto, hback⟩ := (mem_linkedTo hk).1 hi
  exact ⟨hlt, (linkedTo_congr hk hlt hto hback).symm⟩

theorem pairwise_first_lt : (components size next).Pairwise fun a b => a.headD 0 < b.headD 0 := by
  rw [components_eq, List.pairwise_filterMap]
  refine List.pairwise_lt_range.imp fun {i j} hlt a ha b hb => ?_
  rw [headD_of_component ha, headD_of_component hb]
  exact hlt

/-- Components with a common member are the same, so they have the same first member. -/
theorem pairwise_disjoint_components : (components size next).Pairwise List.Disjoint := by
  refine pairwise_first_lt.imp_of_mem fun {a b} ha hb hlt i hia hib => ?_
  have hsame : a = b := (linkedTo_of_mem ha hia).2.symm.trans (linkedTo_of_mem hb hib).2
  rw [hsame] at hlt
  exact Nat.lt_irrefl _ hlt

private theorem two_le_length_of_ne (hne : i ≠ j) (hi : i ∈ members) (hj : j ∈ members) : 2 ≤ members.length := by
  rcases members with _ | ⟨first, _ | ⟨second, rest⟩⟩
  · exact absurd hi List.not_mem_nil
  · exact absurd ((List.mem_singleton.1 hi).trans (List.mem_singleton.1 hj).symm) hne
  · simp

theorem exists_mem_components_iff (hne : i ≠ j) :
    (∃ members ∈ components size next, i ∈ members ∧ j ∈ members) ↔
      Reaches size next i j ∧ Reaches size next j i := by
  constructor
  · rintro ⟨members, hmembers, hi, hj⟩
    obtain ⟨hlt, rfl⟩ := linkedTo_of_mem hmembers hi
    exact ((mem_linkedTo hlt).1 hj).2
  · rintro ⟨hto, hback⟩
    have hi : i < size := hback.lt_size hne.symm
    have hmemi : i ∈ linkedTo size next i := self_mem_linkedTo hi
    have hmemj : j ∈ linkedTo size next i := (mem_linkedTo hi).2 ⟨hto.lt_size hne, hto, hback⟩
    have hlength := two_le_length_of_ne hne hmemi hmemj
    exact ⟨_, mem_components_iff.2 ⟨hlength, i, hi, rfl⟩, hmemi, hmemj⟩

theorem components_listsComponents (size : Nat) (next : Nat → List Nat) :
    ListsComponents size (Edge size next) (components size next) where
  two_le_length _ hmembers := (mem_components_iff.1 hmembers).1
  increasing members hmembers := by
    obtain ⟨-, i, -, rfl⟩ := mem_components_iff.1 hmembers
    exact linkedTo_increasing size next i
  lt_size _ hmembers _ hi := (linkedTo_of_mem hmembers hi).1
  disjoint := pairwise_disjoint_components
  ordered := pairwise_first_lt
  together_iff _ _ hne := exists_mem_components_iff hne

end Components

/-! ### The success graph -/

/-- A step that is not a later duplicate routes to a name whose first declaration is the other step. -/
def SuccessEdge (steps : List Step) (i j : Nat) : Prop :=
  ¬IsLaterDuplicate steps i ∧ ∃ step, steps[i]? = some step ∧ ∃ id, step.RoutesTo id ∧ FirstDeclares steps id j

/-- The names that a list of identifiers leads to. -/
theorem mem_filterMap_declared? {steps : List Step} {ids : List String} {j : Nat} :
    j ∈ ids.filterMap (declared? steps) ↔ ∃ id ∈ ids, FirstDeclares steps id j := by
  simp only [List.mem_filterMap, declared?_eq_some_iff]

theorem edge_successEdges_iff {steps : List Step} {i j : Nat} :
    Edge steps.length (edgeTable steps successEdges) i j ↔ SuccessEdge steps i j := by
  rw [Edge, mem_edgeTable, SuccessEdge]
  constructor
  · rintro ⟨⟨step, hstep, hmem⟩, -⟩
    have hshadowed := isShadowed_iff hstep
    rw [successEdges] at hmem
    split at hmem
    · exact absurd hmem List.not_mem_nil
    · rename_i hfirst
      obtain ⟨id, hid, hdeclares⟩ := mem_filterMap_declared?.1 hmem
      exact ⟨fun h => hfirst (hshadowed.2 h), step, hstep, id, (mem_successors hdeclares.not_blank).1 hid, hdeclares⟩
  · rintro ⟨hfirst, step, hstep, id, hroute, hdeclares⟩
    refine ⟨⟨step, hstep, ?_⟩, hdeclares.lt_length⟩
    rw [successEdges, if_neg fun h => hfirst ((isShadowed_iff hstep).1 h)]
    exact mem_filterMap_declared?.2 ⟨id, (mem_successors hdeclares.not_blank).2 hroute, hdeclares⟩

/-- The cycles of a flow are the strongly connected components of two or more steps of its success graph, each in
increasing order, listed by their first members. -/
theorem cycles_listsComponents (flow : Flow) :
    ListsComponents flow.steps.length (SuccessEdge flow.steps) (cycles flow.steps) := by
  have hedge : Edge flow.steps.length (edgeTable flow.steps successEdges) = SuccessEdge flow.steps := by
    funext i j
    exact propext edge_successEdges_iff
  rw [← hedge]
  exact components_listsComponents _ _

end FlowCheck.Graph
