import FlowCheck.Report
import Mathlib.Data.List.Forall2
import Mathlib.Data.List.Induction

/-!
# Properties of all findings

A rule puts its findings together from conditional findings on the elements of lists.  What holds of all findings of a
rule is what holds of each of its pieces; that nothing blocks (`Quiet`) is one such property, and makes a result valid
(`valid_ofFindings`).
-/

namespace FlowCheck

variable {α : Type} {p : Finding → Prop}

theorem forall_mem_when {reason : Bool} {finding : Finding} :
    (∀ other ∈ Finding.when reason finding, p other) ↔ (reason = true → p finding) := by
  cases reason <;> simp [Finding.when]

theorem forall_mem_flatten_map {as : List α} {f : α → List Finding} :
    (∀ finding ∈ (as.map f).flatten, p finding) ↔ ∀ a ∈ as, ∀ finding ∈ f a, p finding := by
  simp only [List.mem_flatten, List.mem_map]
  constructor
  · exact fun h a ha finding hf => h finding ⟨_, ⟨a, ha, rfl⟩, hf⟩
  · rintro h finding ⟨_, ⟨a, ha, rfl⟩, hf⟩
    exact h a ha finding hf

theorem forall_mem_flatten_mapIdx {as : List α} {f : Nat → α → List Finding} :
    (∀ finding ∈ (as.mapIdx f).flatten, p finding) ↔
      ∀ i (hi : i < as.length), ∀ finding ∈ f i as[i], p finding := by
  simp only [List.mem_flatten, List.mem_mapIdx]
  constructor
  · exact fun h i hi finding hf => h finding ⟨_, ⟨i, hi, rfl⟩, hf⟩
  · rintro h finding ⟨_, ⟨i, hi, rfl⟩, hf⟩
    exact h i hi finding hf

/-- When each element of a list has at most one finding, the findings are those of the elements that have one, in
order. -/
theorem forall₂_flatten_mapIdx {as : List α} {f : Nat → α → List Finding} {r : Nat → Finding → Prop}
    (h : ∀ i (hi : i < as.length), f i as[i] = [] ∨ ∃ finding, f i as[i] = [finding] ∧ r i finding) :
    List.Forall₂ r ((List.range as.length).filter fun i => (as[i]?).any fun a => !(f i a).isEmpty)
      (as.mapIdx f).flatten := by
  induction as using List.reverseRecOn with
  | nil => exact .nil
  | append_singleton as a ih =>
    have hearlier : ∀ i ∈ List.range as.length, ((as ++ [a])[i]?).any (fun a => !(f i a).isEmpty) =
        (as[i]?).any fun a => !(f i a).isEmpty := by
      intro i hi
      rw [List.getElem?_append_left (List.mem_range.1 hi)]
    have hfirst := ih fun i hi => by
      have hmore := h i (by rw [List.length_append]; omega)
      rwa [List.getElem_append_left hi] at hmore
    have hlast := h as.length (by simp)
    rw [List.getElem_concat_length rfl] at hlast
    rw [List.mapIdx_concat, List.flatten_append, List.length_append, List.length_singleton, List.range_succ,
      List.filter_append, List.filter_congr hearlier]
    refine List.rel_append hfirst ?_
    rcases hlast with hnone | ⟨finding, hone, hr⟩
    · simp [hnone]
    · simpa [hone] using hr

section Maps

variable {β γ : Type}

theorem map_flatten_map (g : β → γ) (as : List α) (f : α → List β) :
    (as.map f).flatten.map g = (as.map fun a => (f a).map g).flatten := by
  rw [List.map_flatten, List.map_map]
  rfl

theorem map_mapIdx (g : β → γ) (as : List α) (f : Nat → α → β) :
    (as.mapIdx f).map g = as.mapIdx fun i a => g (f i a) := by
  rw [List.mapIdx_eq_zipIdx_map, List.mapIdx_eq_zipIdx_map, List.map_map]
  rfl

theorem mapIdx_map (g : α → β) (as : List α) (f : Nat → β → γ) :
    (as.map g).mapIdx f = as.mapIdx fun i a => f i (g a) := by
  rw [List.mapIdx_eq_zipIdx_map, List.mapIdx_eq_zipIdx_map, List.zipIdx_map, List.map_map]
  rfl

theorem map_flatten_mapIdx (g : β → γ) (as : List α) (f : Nat → α → List β) :
    (as.mapIdx f).flatten.map g = (as.mapIdx fun i a => (f i a).map g).flatten := by
  rw [List.map_flatten, map_mapIdx]

end Maps

theorem flatMap_filter_of_forall {β : Type} {select : α → Bool} {f : α → List β} {as : List α}
    (h : ∀ a, select a = false → f a = []) : (as.filter select).flatMap f = as.flatMap f := by
  induction as with
  | nil => rfl
  | cons a as ih =>
    rw [List.filter_cons, List.flatMap_cons, ← ih]
    cases hselect : select a with
    | true => rfl
    | false => rw [h a hselect]; rfl

/-! ### Names of codes -/

theorem Code.ofName?_name (code : Code) : ofName? code.name = some code := by
  cases code <;> rfl

theorem Code.name_injective {a b : Code} (h : a.name = b.name) : a = b := by
  have hsome := congrArg ofName? h
  rw [ofName?_name, ofName?_name] at hsome
  exact Option.some.inj hsome

/-! ### Findings that do not block -/

/-- No finding blocks. -/
def Quiet (findings : List Finding) : Prop :=
  ∀ finding ∈ findings, finding.isBlocking = false

theorem quiet_append {as bs : List Finding} : Quiet (as ++ bs) ↔ Quiet as ∧ Quiet bs :=
  List.forall_mem_append

theorem quiet_flatten_map {as : List α} {f : α → List Finding} :
    Quiet (as.map f).flatten ↔ ∀ a ∈ as, Quiet (f a) :=
  forall_mem_flatten_map

theorem quiet_flatten_mapIdx {as : List α} {f : Nat → α → List Finding} :
    Quiet (as.mapIdx f).flatten ↔ ∀ i (hi : i < as.length), Quiet (f i as[i]) :=
  forall_mem_flatten_mapIdx

theorem quiet_when_error {reason : Bool} {path : Path} {code : Code} {message : String} :
    Quiet (Finding.when reason (.error path code message)) ↔ reason = false := by
  cases reason with
  | false => simp [Finding.when, Quiet]
  | true => simp [Finding.when, Quiet, Finding.error, Finding.isBlocking, Severity.blocks]

theorem valid_ofFindings {findings : List Finding} :
    (ValidationResult.ofFindings findings).valid = true ↔ Quiet findings := by
  simp [ValidationResult.ofFindings, ValidationResult.valid, Quiet]

end FlowCheck
