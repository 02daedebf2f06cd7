import FlowCheck.Graph.Closure
import Mathlib.Data.List.Basic
import Mathlib.Logic.Relation

/-!
# What a search among indices finds

A search adds nothing outside a set that is closed under its edges and holds what it starts from
(`of_contains_closure`), and what it returns is such a set itself (`contains_closure_of_edge`).  So a search from one
index finds exactly the indices that can be reached from it (`contains_reachable`), and there are no components of two
or more indices exactly if different indices never reach each other (`components_eq_nil_iff`).
-/

namespace FlowCheck.Graph

variable {size : Nat} {next : Nat → List Nat}

/-- An edge that a search follows. -/
def Edge (size : Nat) (next : Nat → List Nat) (i j : Nat) : Prop :=
  j ∈ next i ∧ j < size

/-- The second index can be reached from the first. -/
def Reaches (size : Nat) (next : Nat → List Nat) : Nat → Nat → Prop :=
  Relation.ReflTransGen (Edge size next)

/-! ### A search -/

/-- A search stays inside any set that is closed under edges. -/
theorem of_contains_closure {p : Nat → Prop} (hp : ∀ i j, p i → Edge size next i j → p j) {todo : List Nat}
    {seen : IndexSet} (htodo : ∀ i ∈ todo, i < size → p i) (hseen : ∀ i, seen.contains i = true → p i) {j : Nat}
    (h : (closure size next todo seen).contains j = true) : p j := by
  fun_induction closure size next todo seen with
  | case1 seen => exact hseen j h
  | case2 seen i todo hi ih =>
    have hpi : p i := htodo i List.mem_cons_self hi.1
    refine ih (fun k hk hlt => ?_) (fun k hk => ?_) h
    · rcases List.mem_append.1 hk with hk | hk
      · exact hp i k hpi ⟨hk, hlt⟩
      · exact htodo k (List.mem_cons_of_mem _ hk) hlt
    · rw [IndexSet.contains_insert, Bool.or_eq_true] at hk
      rcases hk with hk | hk
      · exact hseen k hk
      · rwa [← eq_of_beq hk]
  | case3 seen i todo hi ih => exact ih (fun k hk => htodo k (List.mem_cons_of_mem _ hk)) hseen h

theorem contains_closure_of_seen {todo : List Nat} {seen : IndexSet} {j : Nat} (h : seen.contains j = true) :
    (closure size next todo seen).contains j = true := by
  fun_induction closure size next todo seen with
  | case1 seen => exact h
  | case2 seen i todo hi ih => exact ih (by rw [IndexSet.contains_insert, h, Bool.true_or])
  | case3 seen i todo hi ih => exact ih h

theorem contains_closure_of_todo {todo : List Nat} {seen : IndexSet} {j : Nat} (h : j ∈ todo) (hj : j < size) :
    (closure size next todo seen).contains j = true := by
  fun_induction closure size next todo seen with
  | case1 seen => exact absurd h List.not_mem_nil
  | case2 seen i todo hi ih =>
    rcases List.mem_cons.1 h with rfl | h
    · exact contains_closure_of_seen (by rw [IndexSet.contains_insert, beq_self_eq_true, Bool.or_true])
    · exact ih (List.mem_append_right _ h)
  | case3 seen i todo hi ih =>
    rcases List.mem_cons.1 h with rfl | h
    · exact contains_closure_of_seen (by simpa [hj] using hi)
    · exact ih h

/-- What a search adds is closed under edges. -/
theorem contains_closure_of_edge {todo : List Nat} {seen : IndexSet} {i j : Nat}
    (h : (closure size next todo seen).contains i = true) (hi : seen.contains i = false)
    (hedge : Edge size next i j) : (closure size next todo seen).contains j = true := by
  fun_induction closure size next todo seen with
  | case1 seen =>
    rw [hi] at h
    cases h
  | case2 seen k todo hk ih =>
    -- the edges of the index that is visited now are searched next
    by_cases he : k = i
    · rw [he]
      exact contains_closure_of_todo (List.mem_append_left _ hedge.1) hedge.2
    · exact ih h (by rw [IndexSet.contains_insert, hi, beq_false_of_ne he, Bool.or_false])
  | case3 seen k todo hk ih => exact ih h hi

/-- A search from one index finds what can be reached from it. -/
theorem contains_reachable {start j : Nat} (hstart : start < size) :
    (reachable size next start).contains j = true ↔ Reaches size next start j := by
  have hempty : ∀ i, IndexSet.empty.contains i = true → Reaches size next start i := by
    intro i hi
    rw [IndexSet.contains_empty] at hi
    cases hi
  constructor
  · refine of_contains_closure (fun i j hi hedge => hi.tail hedge) (fun i hi _ => ?_) hempty
    rw [List.mem_singleton.1 hi]
    exact .refl
  · intro h
    induction h with
    | refl => exact contains_closure_of_todo List.mem_cons_self hstart
    | tail _ hedge ih => exact contains_closure_of_edge ih (IndexSet.contains_empty _) hedge

/-! ### Components -/

/-- The two indices reach each other. -/
def linked (size : Nat) (next : Nat → List Nat) (i j : Nat) : Bool :=
  (reachable size next i).contains j && (reachable size next j).contains i

theorem linked_iff {i j : Nat} (hi : i < size) (hj : j < size) :
    linked size next i j = true ↔ Reaches size next i j ∧ Reaches size next j i := by
  rw [linked, Bool.and_eq_true, contains_reachable hi, contains_reachable hj]

/-- The indices that an index is linked to, in increasing order. -/
def linkedTo (size : Nat) (next : Nat → List Nat) (i : Nat) : List Nat :=
  (List.range size).filter (linked size next i)

theorem mem_linkedTo {i j : Nat} (hi : i < size) :
    j ∈ linkedTo size next i ↔ j < size ∧ Reaches size next i j ∧ Reaches size next j i := by
  rw [linkedTo, List.mem_filter, List.mem_range]
  exact and_congr_right fun hj => linked_iff hi hj

/-- Indices that reach each other are linked to the same indices. -/
theorem linkedTo_congr {i j : Nat} (hi : i < size) (hj : j < size) (hij : Reaches size next i j)
    (hji : Reaches size next j i) : linkedTo size next i = linkedTo size next j := by
  refine List.filter_congr fun k hk => ?_
  have hk : k < size := List.mem_range.1 hk
  rw [Bool.eq_iff_iff, linked_iff hi hk, linked_iff hj hk]
  exact ⟨fun h => ⟨hji.trans h.1, h.2.trans hij⟩, fun h => ⟨hij.trans h.1, h.2.trans hji⟩⟩

/-- Each component is listed at its first member. -/
theorem components_eq (size : Nat) (next : Nat → List Nat) :
    components size next = (List.range size).filterMap fun i =>
      match linkedTo size next i with
      | first :: second :: rest => if first = i then some (first :: second :: rest) else none
      | _ => none := by
  have hrow : ∀ i < size, (Array.ofFn fun i : Fin size => reachable size next i).getD i .empty =
      reachable size next i := by
    intro i hi
    simp [Array.getD_eq_getD_getElem?, hi]
  have hclass : ∀ i < size, (List.range size).filter (fun j =>
      ((Array.ofFn fun i : Fin size => reachable size next i).getD i .empty).contains j &&
        ((Array.ofFn fun i : Fin size => reachable size next i).getD j .empty).contains i) =
      linkedTo size next i := by
    intro i hi
    refine List.filter_congr fun j hj => ?_
    rw [hrow i hi, hrow j (List.mem_range.1 hj), linked]
  refine List.filterMap_congr fun i hi => ?_
  exact congrArg (fun members : List Nat => match members with
    | first :: second :: rest => if first = i then some (first :: second :: rest) else none
    | _ => none) (hclass i (List.mem_range.1 hi))

/-- A component is listed at its first member. -/
theorem headD_of_component {i : Nat} {members : List Nat}
    (h : (match linkedTo size next i with
      | first :: second :: rest => if first = i then some (first :: second :: rest) else none
      | _ => none) = some members) : members.headD 0 = i := by
  rcases hclass : linkedTo size next i with _ | ⟨first, _ | ⟨second, rest⟩⟩
  · rw [hclass] at h
    cases h
  · rw [hclass] at h
    cases h
  · rw [hclass] at h
    simp only [Option.ite_none_right_eq_some, Option.some.injEq] at h
    obtain ⟨hfirst, rfl⟩ := h
    exact hfirst

/-- Components have different first members. -/
theorem pairwise_head_components : (components size next).Pairwise fun a b => a.headD 0 ≠ b.headD 0 := by
  rw [components_eq, List.pairwise_filterMap]
  refine List.nodup_range.imp fun {i j} hne a ha b hb => ?_
  rw [headD_of_component ha, headD_of_component hb]
  exact hne

/-- The first member of a component is an index. -/
theorem head_lt_of_mem_components {members : List Nat} (h : members ∈ components size next) :
    members.headD 0 < size := by
  rw [components_eq, List.mem_filterMap] at h
  obtain ⟨i, hi, hmembers⟩ := h
  rw [headD_of_component hmembers]
  exact List.mem_range.1 hi

/-- There are no components exactly if different indices never reach each other. -/
theorem components_eq_nil_iff :
    components size next = [] ↔
      ∀ i < size, ∀ j < size, Reaches size next i j → Reaches size next j i → i = j := by
  rw [components_eq, List.filterMap_eq_nil_iff]
  constructor
  · intro h i hi j hj hij hji
    have hmemi : i ∈ linkedTo size next i := (mem_linkedTo hi).2 ⟨hi, .refl, .refl⟩
    have hmemj : j ∈ linkedTo size next i := (mem_linkedTo hi).2 ⟨hj, hij, hji⟩
    rcases hclass : linkedTo size next i with _ | ⟨first, _ | ⟨second, rest⟩⟩
    · rw [hclass] at hmemi
      cases hmemi
    · rw [hclass] at hmemi hmemj
      rw [List.mem_singleton.1 hmemi, List.mem_singleton.1 hmemj]
    · -- the component would be listed at its first member
      obtain ⟨hfirst, hto, hback⟩ := (mem_linkedTo (j := first) hi).1 (by rw [hclass]; exact List.mem_cons_self)
      have hnone := h first (List.mem_range.2 hfirst)
      rw [← linkedTo_congr hi hfirst hto hback, hclass] at hnone
      simp at hnone
  · intro h i hi
    have hi : i < size := List.mem_range.1 hi
    rcases hclass : linkedTo size next i with _ | ⟨first, _ | ⟨second, rest⟩⟩
    · rfl
    · rfl
    · -- both members are the index itself, but no index is listed twice
      have hsame : ∀ j ∈ linkedTo size next i, i = j := by
        intro j hj
        obtain ⟨hlt, hto, hback⟩ := (mem_linkedTo hi).1 hj
        exact h i hi j hlt hto hback
      have hnodup : (linkedTo size next i).Nodup := List.nodup_range.filter _
      rw [hclass] at hsame hnodup
      have hfirst := hsame first List.mem_cons_self
      have hsecond := hsame second (List.mem_cons_of_mem _ List.mem_cons_self)
      rw [← hfirst, ← hsecond] at hnodup
      simp at hnodup

end FlowCheck.Graph
