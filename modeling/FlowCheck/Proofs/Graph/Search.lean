import FlowCheck.Proofs.Graph.Reachability
import Mathlib.Algebra.BigOperators.Group.Finset.Basic

/-!
# A search ends, in whatever order it goes

A search holds the indices that are still to do, which may repeat, and those that were seen.  One turn takes any index
from those to do; a new one is added to what was seen, and its edges are to do as well.

* Each turn lowers the work that is left by one (`Turn.work_add_one`): the indices to do and the edges of all indices
  that were not seen.  So no search takes more turns than there is work at its start (`Turns.le_work`).
* Each turn keeps that everything found can be reached, and that the edges of what was seen are not lost
  (`Turn.sound`).  So a search that has nothing left to do has found what can be reached (`contains_iff_of_turns`).

The search of the library is one of these searches (`exists_turns_closure`).
-/

namespace FlowCheck.Graph

open Finset (sum_congr add_sum_erase mem_erase mem_range range)

/-- The state of a search. -/
structure Search where
  todo : List Nat
  seen : IndexSet

namespace Search

variable {size : Nat} {next : Nat → List Nat} {start i : Nat} {s t u : Search}

/-- The start of a search from one index. -/
def ofIndex (start : Nat) : Search :=
  ⟨[start], .empty⟩

/-- One turn of a search; the indices to do may be taken and left in any order. -/
inductive Turn (size : Nat) (next : Nat → List Nat) : Search → Search → Prop
  | visit {todo rest later : List Nat} {seen : IndexSet} {i : Nat} (htake : todo.Perm (i :: rest)) (hi : i < size)
      (hnew : seen.contains i = false) (hlater : later.Perm (next i ++ rest)) :
      Turn size next ⟨todo, seen⟩ ⟨later, seen.insert i⟩
  | skip {todo rest later : List Nat} {seen : IndexSet} {i : Nat} (htake : todo.Perm (i :: rest))
      (hdone : ¬(i < size ∧ seen.contains i = false)) (hlater : later.Perm rest) :
      Turn size next ⟨todo, seen⟩ ⟨later, seen⟩

/-- A number of turns, one after the other. -/
inductive Turns (size : Nat) (next : Nat → List Nat) : Nat → Search → Search → Prop
  | none {s : Search} : Turns size next 0 s s
  | more {n : Nat} {s t u : Search} (first : Turn size next s t) (later : Turns size next n t u) :
      Turns size next (n + 1) s u

/-! ### The work that is left -/

/-- The indices to do, and the edges of the indices that were not seen. -/
def work (size : Nat) (next : Nat → List Nat) (s : Search) : Nat :=
  s.todo.length + ∑ i ∈ range size, if s.seen.contains i then 0 else (next i).length

/-- The edges of a new index are counted until it is seen. -/
private theorem sum_insert_add (next : Nat → List Nat) {seen : IndexSet} (hi : i < size)
    (hnew : seen.contains i = false) :
    (next i).length + (∑ j ∈ range size, if (seen.insert i).contains j then 0 else (next j).length) =
      ∑ j ∈ range size, if seen.contains j then 0 else (next j).length := by
  have hmem : i ∈ range size := mem_range.2 hi
  have hothers : ∀ j ∈ (range size).erase i, (if (seen.insert i).contains j then 0 else (next j).length) =
      if seen.contains j then 0 else (next j).length := by
    intro j hj
    rw [IndexSet.contains_insert, beq_false_of_ne (mem_erase.1 hj).1.symm, Bool.or_false]
  rw [← add_sum_erase _ _ hmem, ← add_sum_erase (range size) (fun j => if seen.contains j then 0 else _) hmem,
    sum_congr rfl hothers]
  simp [hnew]

theorem Turn.work_add_one (h : Turn size next s t) : work size next t + 1 = work size next s := by
  cases h with
  | visit htake hi hnew hlater =>
    have hedges := sum_insert_add next hi hnew
    have htodo := htake.length_eq
    have hleft := hlater.length_eq
    simp only [List.length_cons, List.length_append] at htodo hleft
    simp only [work]
    omega
  | skip htake hdone hlater =>
    have htodo := htake.length_eq
    have hleft := hlater.length_eq
    simp only [List.length_cons] at htodo
    simp only [work]
    omega

theorem Turns.add_work {n : Nat} (h : Turns size next n s t) : n + work size next t = work size next s := by
  induction h with
  | none => exact Nat.zero_add _
  | more first _ ih =>
    rw [← first.work_add_one, ← ih]
    omega

/-- No search takes more turns than there is work. -/
theorem Turns.le_work {n : Nat} (h : Turns size next n s t) : n ≤ work size next s := by
  rw [← h.add_work]
  exact Nat.le_add_right _ _

theorem work_ofIndex (size : Nat) (next : Nat → List Nat) (start : Nat) :
    work size next (ofIndex start) = 1 + ∑ i ∈ range size, (next i).length := by
  simp [work, ofIndex]

/-! ### What is found -/

/-- All that was found can be reached, and nothing that can be reached from there is lost. -/
structure Sound (size : Nat) (next : Nat → List Nat) (start : Nat) (s : Search) : Prop where
  seen : ∀ i, s.seen.contains i = true → Reaches size next start i
  todo : ∀ i ∈ s.todo, i < size → Reaches size next start i
  started : start < size → s.seen.contains start = true ∨ start ∈ s.todo
  closed : ∀ i, s.seen.contains i = true → ∀ j, Edge size next i j → s.seen.contains j = true ∨ j ∈ s.todo

theorem sound_ofIndex (size : Nat) (next : Nat → List Nat) (start : Nat) : Sound size next start (ofIndex start) where
  seen i h := by
    rw [ofIndex, IndexSet.contains_empty] at h
    cases h
  todo i h _ := by
    rw [List.mem_singleton.1 h]
    exact .refl
  started _ := Or.inr List.mem_cons_self
  closed i h := by
    rw [ofIndex, IndexSet.contains_empty] at h
    cases h

theorem Turn.sound (h : Turn size next s t) (hs : Sound size next start s) : Sound size next start t := by
  cases h with
  | @visit todo rest later seen i htake hi hnew hlater =>
    have hreach : Reaches size next start i := hs.todo i (htake.mem_iff.2 List.mem_cons_self) hi
    -- what was seen or to do before is so after the turn
    have hkeep : ∀ j, seen.contains j = true ∨ j ∈ todo → (seen.insert i).contains j = true ∨ j ∈ later := by
      rintro j (hj | hj)
      · exact Or.inl (by rw [IndexSet.contains_insert, hj, Bool.true_or])
      · rcases List.mem_cons.1 (htake.mem_iff.1 hj) with rfl | hrest
        · exact Or.inl (by rw [IndexSet.contains_insert, beq_self_eq_true, Bool.or_true])
        · exact Or.inr (hlater.mem_iff.2 (List.mem_append_right _ hrest))
    refine ⟨fun j hj => ?_, fun j hj hlt => ?_, fun hlt => hkeep start (hs.started hlt),
      fun k hk j hedge => ?_⟩
    · rw [IndexSet.contains_insert, Bool.or_eq_true] at hj
      rcases hj with hj | hj
      · exact hs.seen j hj
      · rwa [← eq_of_beq hj]
    · rcases List.mem_append.1 (hlater.mem_iff.1 hj) with hedge | hrest
      · exact hreach.tail ⟨hedge, hlt⟩
      · exact hs.todo j (htake.mem_iff.2 (List.mem_cons_of_mem _ hrest)) hlt
    · rw [IndexSet.contains_insert, Bool.or_eq_true] at hk
      rcases hk with hk | hk
      · exact hkeep j (hs.closed k hk j hedge)
      · obtain rfl := eq_of_beq hk
        exact Or.inr (hlater.mem_iff.2 (List.mem_append_left _ hedge.1))
  | @skip todo rest later seen i htake hdone hlater =>
    have hkeep : ∀ j < size, seen.contains j = true ∨ j ∈ todo → seen.contains j = true ∨ j ∈ later := by
      rintro j hlt (hj | hj)
      · exact Or.inl hj
      · rcases List.mem_cons.1 (htake.mem_iff.1 hj) with rfl | hrest
        · exact Or.inl (by simpa [hlt] using hdone)
        · exact Or.inr (hlater.mem_iff.2 hrest)
    refine ⟨hs.seen, fun j hj hlt => ?_, fun hlt => hkeep start hlt (hs.started hlt),
      fun k hk j hedge => hkeep j hedge.2 (hs.closed k hk j hedge)⟩
    exact hs.todo j (htake.mem_iff.2 (List.mem_cons_of_mem _ (hlater.mem_iff.1 hj))) hlt

theorem Turns.sound {n : Nat} (h : Turns size next n s t) (hs : Sound size next start s) :
    Sound size next start t := by
  induction h with
  | none => exact hs
  | more first _ ih => exact ih (first.sound hs)

/-- A search with nothing left to do has found what can be reached. -/
theorem contains_iff_of_turns {n : Nat} (hstart : start < size) (h : Turns size next n (ofIndex start) s)
    (hend : s.todo = []) : s.seen.contains i = true ↔ Reaches size next start i := by
  have hs := h.sound (sound_ofIndex size next start)
  have hseen : ∀ j, s.seen.contains j = true ∨ j ∈ s.todo → s.seen.contains j = true := by
    rintro j (hj | hj)
    · exact hj
    · rw [hend] at hj
      exact absurd hj List.not_mem_nil
  refine ⟨hs.seen i, fun hreach => ?_⟩
  induction hreach with
  | refl => exact hseen start (hs.started hstart)
  | tail _ hedge ih => exact hseen _ (hs.closed _ ih _ hedge)

/-! ### The search of the library -/

/-- The search that takes the first of the indices to do, and puts the edges of a new one before the others. -/
theorem exists_turns_closure (size : Nat) (next : Nat → List Nat) (todo : List Nat) (seen : IndexSet) :
    ∃ n, Turns size next n ⟨todo, seen⟩ ⟨[], closure size next todo seen⟩ := by
  fun_induction closure size next todo seen with
  | case1 seen => exact ⟨0, .none⟩
  | case2 seen i todo hi ih =>
    obtain ⟨n, hturns⟩ := ih
    exact ⟨n + 1, .more (.visit (.refl _) hi.1 hi.2 (.refl _)) hturns⟩
  | case3 seen i todo hi ih =>
    obtain ⟨n, hturns⟩ := ih
    exact ⟨n + 1, .more (.skip (.refl _) hi (.refl _)) hturns⟩

/-- The result is that of every search from the index, and no search goes on for ever. -/
structure Ends (size : Nat) (next : Nat → List Nat) (start : Nat) (result : IndexSet) : Prop where
  runs : ∃ n, Turns size next n (ofIndex start) ⟨[], result⟩
  bounded : ∀ n s, Turns size next n (ofIndex start) s → n ≤ 1 + ∑ i ∈ range size, (next i).length
  settled : ∀ n s, Turns size next n (ofIndex start) s → s.todo = [] → ∀ i, s.seen.contains i = result.contains i

theorem ends_reachable (hstart : start < size) : Ends size next start (reachable size next start) where
  runs := exists_turns_closure size next [start] .empty
  bounded n s h := by
    rw [← work_ofIndex]
    exact h.le_work
  settled n s h hend i := by
    rw [Bool.eq_iff_iff, contains_reachable hstart]
    exact contains_iff_of_turns hstart h hend

end Search

end FlowCheck.Graph
