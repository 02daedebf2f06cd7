import FlowCheck.Proofs.Graph.Loops

/-!
# Declarations of identifiers

A name leads to the first step that declares it (`declared?_eq_some_iff`), and a step is shadowed exactly if an
earlier one has declared its identifier (`isShadowed_iff`).  Nothing is assumed of the identifiers: they may be
blank and may be declared many times.
-/

namespace FlowCheck.Graph

variable {steps : List Step} {id : String} {i j : Nat}

/-- The step at the index is the first one with the identifier, which is not blank. -/
structure FirstDeclares (steps : List Step) (id : String) (i : Nat) : Prop where
  not_blank : Text.blank id = false
  declares : (steps[i]?).map (·.id) = some id
  first : ∀ k < i, (steps[k]?).map (·.id) ≠ some id

/-- A step before the one at the index has declared the same identifier. -/
def IsLaterDuplicate (steps : List Step) (i : Nat) : Prop :=
  ∃ id, Text.blank id = false ∧ (steps[i]?).map (·.id) = some id ∧ ∃ k < i, (steps[k]?).map (·.id) = some id

theorem FirstDeclares.lt_length (h : FirstDeclares steps id i) : i < steps.length := by
  obtain ⟨step, hstep, -⟩ := Option.map_eq_some_iff.1 h.declares
  exact (List.getElem?_eq_some_iff.1 hstep).1

theorem declared?_eq_some_iff : declared? steps id = some i ↔ FirstDeclares steps id i := by
  cases hblank : Text.blank id with
  | true =>
    rw [declared?, if_pos hblank]
    refine iff_of_false (Option.some_ne_none i).symm fun h => ?_
    rw [h.not_blank] at hblank
    cases hblank
  | false =>
    simp only [declared?, hblank, Bool.false_eq_true, if_false, List.findIdx?_eq_some_iff_getElem, beq_iff_eq]
    constructor
    · rintro ⟨hi, hid, hfirst⟩
      refine ⟨hblank, by rw [List.getElem?_eq_getElem hi, Option.map_some, hid], fun k hk heq => ?_⟩
      rw [List.getElem?_eq_getElem (Nat.lt_trans hk hi), Option.map_some] at heq
      exact hfirst k hk (Option.some.inj heq)
    · intro h
      have hi := h.lt_length
      have hid := h.declares
      rw [List.getElem?_eq_getElem hi, Option.map_some] at hid
      refine ⟨hi, Option.some.inj hid, fun k hk heq => h.first k hk ?_⟩
      rw [List.getElem?_eq_getElem (Nat.lt_trans hk hi), Option.map_some, heq]

/-- An identifier that is declared and not blank is first declared at some index, not after the given one. -/
theorem exists_firstDeclares (hblank : Text.blank id = false) (h : (steps[i]?).map (·.id) = some id) :
    ∃ j ≤ i, FirstDeclares steps id j := by
  induction i using Nat.strongRecOn with
  | ind i ih =>
    by_cases hearlier : ∃ k < i, (steps[k]?).map (·.id) = some id
    · obtain ⟨k, hk, hid⟩ := hearlier
      obtain ⟨j, hj, hfirst⟩ := ih k hk hid
      exact ⟨j, by omega, hfirst⟩
    · exact ⟨i, Nat.le_refl i, hblank, h, fun k hk hid => hearlier ⟨k, hk, hid⟩⟩

theorem isShadowed_iff {step : Step} (h : steps[i]? = some step) :
    isShadowed steps i step = true ↔ IsLaterDuplicate steps i := by
  have hid : (steps[i]?).map (·.id) = some step.id := by rw [h, Option.map_some]
  simp only [isShadowed, Option.any_eq_true, bne_iff_ne]
  constructor
  · rintro ⟨j, hj, hne⟩
    have hfirst := declared?_eq_some_iff.1 hj
    refine ⟨step.id, hfirst.not_blank, hid, j, ?_, hfirst.declares⟩
    -- the first declaration is not after this one
    have hle : ¬i < j := fun hlt => hfirst.first i hlt hid
    omega
  · rintro ⟨id, hblank, hsame, k, hk, hearlier⟩
    obtain rfl : step.id = id := Option.some.inj (hid.symm.trans hsame)
    obtain ⟨j, hj, hfirst⟩ := exists_firstDeclares hblank hearlier
    exact ⟨j, declared?_eq_some_iff.2 hfirst, by omega⟩

end FlowCheck.Graph
