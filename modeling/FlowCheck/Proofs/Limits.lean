import FlowCheck.Limits
import FlowCheck.Proofs.SortedTrees

/-!
# Trees within limits

Measuring a tree down to a number of levels gives its depth exactly if it has no more levels
(`Value.depthWithin?_eq`).  So stopping a little below the bound loses nothing: a tree is accepted exactly if it
is within all bounds (`InputLimits.Admits`), and of any other tree the first bound that it exceeds is reported
(`InputLimits.FirstExceeds`).
-/

namespace FlowCheck

/-! ### Measuring the depth -/

namespace Value

/-- The deeper of two parts, if both are within the levels. -/
private theorem max_within (levels a b : Nat) :
    ((if a ≤ levels then some a else none).bind fun a => (if b ≤ levels then some b else none).map (max a)) =
      if max a b ≤ levels then some (max a b) else none := by
  simp only [Nat.max_le]
  by_cases ha : a ≤ levels <;> by_cases hb : b ≤ levels <;> simp [ha, hb]

mutual

theorem depthWithin?_eq : (levels : Nat) → (v : Value) →
    v.depthWithin? levels = if v.depth ≤ levels then some v.depth else none
  | 0, v => by
    have := v.depth_pos
    rw [depthWithin?, if_neg (by omega)]
  | levels + 1, .list items => by
    rw [depthWithin?, depthWithinItems?_eq, depth]
    by_cases h : depthItems items ≤ levels
    · rw [if_pos h, if_pos (by omega), Option.map_some]
    · rw [if_neg h, if_neg (by omega), Option.map_none]
  | levels + 1, .object fields => by
    rw [depthWithin?, depthWithinFields?_eq, depth]
    by_cases h : depthFields fields ≤ levels
    · rw [if_pos h, if_pos (by omega), Option.map_some]
    · rw [if_neg h, if_neg (by omega), Option.map_none]
  | levels + 1, .null | levels + 1, .bool _ | levels + 1, .int _ | levels + 1, .float _ | levels + 1, .string _ => by
    simp [depthWithin?, depth]

theorem depthWithinItems?_eq : (levels : Nat) → (items : List Value) →
    depthWithinItems? levels items = if depthItems items ≤ levels then some (depthItems items) else none
  | levels, [] => by simp [depthWithinItems?, depthItems]
  | levels, v :: vs => by
    rw [depthWithinItems?, depthWithin?_eq levels v, depthWithinItems?_eq levels vs]
    exact max_within levels v.depth (depthItems vs)

theorem depthWithinFields?_eq : (levels : Nat) → (fields : List (String × Value)) →
    depthWithinFields? levels fields = if depthFields fields ≤ levels then some (depthFields fields) else none
  | levels, [] => by simp [depthWithinFields?, depthFields]
  | levels, (_, v) :: fields => by
    rw [depthWithinFields?, depthWithin?_eq levels v, depthWithinFields?_eq levels fields]
    exact max_within levels v.depth (depthFields fields)

end

/-- The tree is a mapping with the given list in a field. -/
def HasList (v : Value) (name : String) (items : List Value) : Prop :=
  v.get? name = some (.list items)

theorem HasList.unique {v : Value} {name : String} {items others : List Value} (h : v.HasList name items)
    (h' : v.HasList name others) : items = others :=
  Value.list.inj (Option.some.inj (h.symm.trans h'))

end Value

/-! ### Messages -/

namespace Excess

/-- How the message begins. -/
def opening : Excess → String
  | .bytes _ _ => "document size ("
  | .depth _ _ => "nesting depth ("
  | .farTooDeep _ => "nesting depth exceeds maximum allowed ("
  | .steps _ _ => "step count ("
  | .policies _ _ _ => "steps["
  | .triggers _ _ => "trigger count ("

private theorem exists_message_eq (excess : Excess) : ∃ rest, excess.message = excess.opening ++ rest := by
  have split₂ (a b c : String) : a ++ b ++ c = a ++ (b ++ c) := String.append_assoc
  have split₄ (a b c d e : String) : a ++ b ++ c ++ d ++ e = a ++ (b ++ c ++ d ++ e) := by
    simp only [String.append_assoc]
  have split₅ (a b c d e f : String) : a ++ b ++ c ++ d ++ e ++ f = a ++ (b ++ c ++ d ++ e ++ f) := by
    simp only [String.append_assoc]
  cases excess with
  | farTooDeep => exact ⟨_, split₂ _ _ _⟩
  | policies => exact ⟨_, split₅ _ _ _ _ _ _⟩
  | _ => exact ⟨_, split₄ _ _ _ _ _⟩

/-- Only a message that tells the depth reads like one. -/
theorem eq_depth_of_message_eq {excess : Excess} {n bound : Nat} (h : excess.message = (Excess.depth n bound).message) :
    ∃ depth max, excess = .depth depth max := by
  obtain ⟨rest, hrest⟩ := excess.exists_message_eq
  obtain ⟨others, hothers⟩ := (Excess.depth n bound).exists_message_eq
  rw [hrest, hothers] at h
  have hletters := congrArg String.toList h
  cases excess with
  | depth depth max => exact ⟨depth, max, rfl⟩
  | _ => simp [opening, String.toList_append] at hletters

end Excess

namespace InputLimits

variable {limits : InputLimits} {tree : Value} {excess : Excess} {name : String} {n : Nat}

/-! ### Bounds and their order -/

/-- The step has no more policies than a step may have. -/
def AdmitsStep (limits : InputLimits) (step : Value) : Prop :=
  ∀ policies, step.HasList "policies" policies → policies.length ≤ limits.maxPoliciesPerStep.toNat

/-- The tree is within all bounds. -/
structure Admits (limits : InputLimits) (tree : Value) : Prop where
  depth : tree.depth ≤ limits.maxNestingDepth.toNat
  steps : ∀ steps, tree.HasList "steps" steps → steps.length ≤ limits.maxSteps.toNat
  policies : ∀ steps, tree.HasList "steps" steps → ∀ step ∈ steps, limits.AdmitsStep step
  triggers : ∀ triggers, tree.HasList "triggers" triggers → triggers.length ≤ limits.maxTriggers.toNat

/-- The first bound that the tree exceeds.  A depth is told if it exceeds the bound by no more than eight levels and
fits a word. -/
inductive FirstExceeds (limits : InputLimits) (tree : Value) : Excess → Prop
  | depth (hexceeds : limits.maxNestingDepth.toNat < tree.depth)
      (htold : tree.depth ≤ min (limits.maxNestingDepth.toNat + 8) (UInt64.size - 1)) :
      FirstExceeds limits tree (.depth tree.depth limits.maxNestingDepth.toNat)
  | farTooDeep (hexceeds : min (limits.maxNestingDepth.toNat + 8) (UInt64.size - 1) < tree.depth) :
      FirstExceeds limits tree (.farTooDeep limits.maxNestingDepth.toNat)
  | steps {steps : List Value} (hdepth : tree.depth ≤ limits.maxNestingDepth.toNat)
      (hsteps : tree.HasList "steps" steps) (hexceeds : limits.maxSteps.toNat < steps.length) :
      FirstExceeds limits tree (.steps steps.length limits.maxSteps.toNat)
  | policies {steps policies : List Value} {i : Nat} {step : Value}
      (hdepth : tree.depth ≤ limits.maxNestingDepth.toNat)
      (hsteps : tree.HasList "steps" steps) (hcount : steps.length ≤ limits.maxSteps.toNat)
      (hstep : steps[i]? = some step) (hpolicies : step.HasList "policies" policies)
      (hexceeds : limits.maxPoliciesPerStep.toNat < policies.length)
      (hfirst : ∀ j < i, ∀ earlier, steps[j]? = some earlier → limits.AdmitsStep earlier) :
      FirstExceeds limits tree (.policies i policies.length limits.maxPoliciesPerStep.toNat)
  | triggers {triggers : List Value} (hdepth : tree.depth ≤ limits.maxNestingDepth.toNat)
      (hsteps : ∀ steps, tree.HasList "steps" steps → steps.length ≤ limits.maxSteps.toNat)
      (hpolicies : ∀ steps, tree.HasList "steps" steps → ∀ step ∈ steps, limits.AdmitsStep step)
      (htriggers : tree.HasList "triggers" triggers) (hexceeds : limits.maxTriggers.toNat < triggers.length) :
      FirstExceeds limits tree (.triggers triggers.length limits.maxTriggers.toNat)

/-! ### The depth -/

theorem maxNestingDepth_le_toldDepth (limits : InputLimits) : limits.maxNestingDepth.toNat ≤ limits.toldDepth := by
  have := limits.maxNestingDepth.toNat_lt
  unfold toldDepth
  omega

theorem depthExcess?_eq (limits : InputLimits) (tree : Value) :
    limits.depthExcess? tree =
      if tree.depth ≤ limits.maxNestingDepth.toNat then none
      else if tree.depth ≤ limits.toldDepth then some (.depth tree.depth limits.maxNestingDepth.toNat)
      else some (.farTooDeep limits.maxNestingDepth.toNat) := by
  have := limits.maxNestingDepth_le_toldDepth
  rw [depthExcess?, Value.depthWithin?_eq]
  by_cases htold : tree.depth ≤ limits.toldDepth
  · simp only [htold, if_true]
  · have hexceeds : ¬tree.depth ≤ limits.maxNestingDepth.toNat := by omega
    simp only [htold, hexceeds, if_false]

theorem depthExcess?_eq_none : limits.depthExcess? tree = none ↔ tree.depth ≤ limits.maxNestingDepth.toNat := by
  rw [depthExcess?_eq]
  split
  · simp_all
  · split <;> simp_all

theorem depthExcess?_eq_some :
    limits.depthExcess? tree = some excess ↔
      limits.maxNestingDepth.toNat < tree.depth ∧ tree.depth ≤ limits.toldDepth ∧
        excess = .depth tree.depth limits.maxNestingDepth.toNat ∨
      limits.toldDepth < tree.depth ∧ excess = .farTooDeep limits.maxNestingDepth.toNat := by
  have hle := limits.maxNestingDepth_le_toldDepth
  rw [depthExcess?_eq]
  by_cases hdepth : tree.depth ≤ limits.maxNestingDepth.toNat
  · have htold : ¬limits.toldDepth < tree.depth := by omega
    simp only [hdepth, htold, Nat.not_lt.2 hdepth, if_true, false_and, or_false, reduceCtorEq]
  · by_cases htold : tree.depth ≤ limits.toldDepth
    · simp only [hdepth, htold, Nat.lt_of_not_le hdepth, Nat.not_lt.2 htold, if_true, if_false, true_and, false_and,
        or_false, Option.some.injEq, eq_comm]
    · simp only [hdepth, htold, Nat.lt_of_not_le htold, if_false, true_and, false_and, and_false, false_or,
        Option.some.injEq, eq_comm]

/-! ### Lists that are too long -/

/-- A field without a list counts as one with an empty list. -/
theorem listed_cases (tree : Value) (name : String) :
    (∃ items, tree.HasList name items ∧ ((tree.get? name).bind Value.asList?).getD [] = items) ∨
      (∀ items, ¬tree.HasList name items) ∧ ((tree.get? name).bind Value.asList?).getD [] = [] := by
  unfold Value.HasList
  cases tree.get? name with
  | none => simp
  | some v => cases v <;> simp [Value.asList?]

theorem forall_listed_iff {p : Value → Prop} :
    (∀ item ∈ ((tree.get? name).bind Value.asList?).getD [], p item) ↔
      ∀ items, tree.HasList name items → ∀ item ∈ items, p item := by
  rcases listed_cases tree name with ⟨items, hitems, hlisted⟩ | ⟨hnone, hlisted⟩
  · rw [hlisted]
    refine ⟨fun h others hothers => ?_, fun h => h items hitems⟩
    rwa [← hitems.unique hothers]
  · rw [hlisted]
    exact ⟨fun _ items hitems => absurd hitems (hnone items), fun _ => nofun⟩

theorem listLength_le_iff : listLength tree name ≤ n ↔ ∀ items, tree.HasList name items → items.length ≤ n := by
  rw [listLength]
  rcases listed_cases tree name with ⟨items, hitems, hlisted⟩ | ⟨hnone, hlisted⟩
  · rw [hlisted]
    refine ⟨fun h others hothers => ?_, fun h => h items hitems⟩
    rwa [← hitems.unique hothers]
  · rw [hlisted]
    exact ⟨fun _ items hitems => absurd hitems (hnone items), fun _ => Nat.zero_le n⟩

theorem ite_listLength_eq_none (report : Nat → Excess) :
    (if listLength tree name ≤ n then none else some (report (listLength tree name))) = none ↔
      ∀ items, tree.HasList name items → items.length ≤ n := by
  rw [ite_eq_left_iff, ← listLength_le_iff]
  simp only [reduceCtorEq, imp_false, Decidable.not_not]

/-- A list that is too long is reported with its length. -/
theorem ite_listLength_eq_some (report : Nat → Excess) :
    (if listLength tree name ≤ n then none else some (report (listLength tree name))) = some excess ↔
      ∃ items, tree.HasList name items ∧ n < items.length ∧ report items.length = excess := by
  rw [listLength]
  rcases listed_cases tree name with ⟨items, hitems, hlisted⟩ | ⟨hnone, hlisted⟩
  · rw [hlisted]
    constructor
    · intro h
      split at h
      · cases h
      · rename_i hexceeds
        exact ⟨items, hitems, Nat.lt_of_not_le hexceeds, Option.some.inj h⟩
    · rintro ⟨others, hothers, hexceeds, rfl⟩
      obtain rfl := hitems.unique hothers
      exact if_neg (Nat.not_le.2 hexceeds)
  · rw [hlisted]
    refine iff_of_false nofun ?_
    rintro ⟨items, hitems, -⟩
    exact hnone items hitems

theorem stepsExcess?_eq_none :
    limits.stepsExcess? tree = none ↔
      ∀ steps, tree.HasList "steps" steps → steps.length ≤ limits.maxSteps.toNat :=
  ite_listLength_eq_none fun count => .steps count limits.maxSteps.toNat

theorem stepsExcess?_eq_some :
    limits.stepsExcess? tree = some excess ↔ ∃ steps, tree.HasList "steps" steps ∧
      limits.maxSteps.toNat < steps.length ∧ .steps steps.length limits.maxSteps.toNat = excess :=
  ite_listLength_eq_some fun count => .steps count limits.maxSteps.toNat

theorem triggersExcess?_eq_none :
    limits.triggersExcess? tree = none ↔
      ∀ triggers, tree.HasList "triggers" triggers → triggers.length ≤ limits.maxTriggers.toNat :=
  ite_listLength_eq_none fun count => .triggers count limits.maxTriggers.toNat

theorem triggersExcess?_eq_some :
    limits.triggersExcess? tree = some excess ↔ ∃ triggers, tree.HasList "triggers" triggers ∧
      limits.maxTriggers.toNat < triggers.length ∧ .triggers triggers.length limits.maxTriggers.toNat = excess :=
  ite_listLength_eq_some fun count => .triggers count limits.maxTriggers.toNat

/-! ### Policies -/

/-- What is found first among the elements of a list. -/
theorem findSome?_mapIdx_eq_some {α β : Type} {as : List α} {f : Nat → α → Option β} {b : β} :
    (as.mapIdx f).findSome? id = some b ↔
      ∃ i a, as[i]? = some a ∧ f i a = some b ∧ ∀ j < i, ∀ c, as[j]? = some c → f j c = none := by
  induction as generalizing f with
  | nil => simp
  | cons a as ih =>
    rw [List.mapIdx_cons, List.findSome?_cons, id_eq]
    cases hfirst : f 0 a with
    | some first =>
      constructor
      · intro h
        exact ⟨0, a, rfl, hfirst.trans h, fun j hj => absurd hj (Nat.not_lt_zero j)⟩
      · rintro ⟨i, c, hc, hfound, hbefore⟩
        cases i with
        | zero =>
          obtain rfl : a = c := Option.some.inj hc
          exact hfirst.symm.trans hfound
        | succ i => exact nomatch hfirst.symm.trans (hbefore 0 i.succ_pos a rfl)
    | none =>
      refine ih.trans ?_
      constructor
      · rintro ⟨i, c, hc, hfound, hbefore⟩
        refine ⟨i + 1, c, hc, hfound, fun j hj d hd => ?_⟩
        cases j with
        | zero =>
          obtain rfl : a = d := Option.some.inj hd
          exact hfirst
        | succ j => exact hbefore j (Nat.lt_of_succ_lt_succ hj) d hd
      · rintro ⟨i, c, hc, hfound, hbefore⟩
        cases i with
        | zero =>
          obtain rfl : a = c := Option.some.inj hc
          exact nomatch hfirst.symm.trans hfound
        | succ i => exact ⟨i, c, hc, hfound, fun j hj => hbefore (j + 1) (Nat.succ_lt_succ hj)⟩

theorem policiesExcess?_eq_none :
    limits.policiesExcess? tree = none ↔ ∀ step ∈ ((tree.get? "steps").bind Value.asList?).getD [],
      listLength step "policies" ≤ limits.maxPoliciesPerStep.toNat := by
  simp only [policiesExcess?, List.findSome?_eq_none_iff, List.mem_mapIdx]
  constructor
  · intro h step hstep
    obtain ⟨i, hi, rfl⟩ := List.mem_iff_getElem.1 hstep
    have hnone := h _ ⟨i, hi, rfl⟩
    simp only [id_eq, ite_eq_left_iff, reduceCtorEq, imp_false, Decidable.not_not] at hnone
    exact hnone
  · rintro h _ ⟨i, hi, rfl⟩
    exact if_pos (h _ (List.getElem_mem hi))

theorem policiesExcess?_eq_some :
    limits.policiesExcess? tree = some excess ↔
      ∃ steps, tree.HasList "steps" steps ∧ ∃ i step, steps[i]? = some step ∧
        (∃ policies, step.HasList "policies" policies ∧ limits.maxPoliciesPerStep.toNat < policies.length ∧
          .policies i policies.length limits.maxPoliciesPerStep.toNat = excess) ∧
        ∀ j < i, ∀ earlier, steps[j]? = some earlier → limits.AdmitsStep earlier := by
  let report (i count : Nat) : Excess := .policies i count limits.maxPoliciesPerStep.toNat
  let found (i : Nat) (step : Value) : Option Excess :=
    if listLength step "policies" ≤ limits.maxPoliciesPerStep.toNat then none
    else some (report i (listLength step "policies"))
  have hstep (i : Nat) (step : Value) : found i step = some excess ↔
      ∃ policies, step.HasList "policies" policies ∧ limits.maxPoliciesPerStep.toNat < policies.length ∧
        report i policies.length = excess := ite_listLength_eq_some (report i)
  have hearlier (i : Nat) (step : Value) : found i step = none ↔ limits.AdmitsStep step :=
    ite_listLength_eq_none (report i)
  rw [policiesExcess?, findSome?_mapIdx_eq_some]
  rcases listed_cases tree "steps" with ⟨steps, hsteps, hlisted⟩ | ⟨hnone, hlisted⟩
  · rw [hlisted]
    constructor
    · rintro ⟨i, step, hi, hfound, hfirst⟩
      exact ⟨steps, hsteps, i, step, hi, (hstep i step).1 hfound,
        fun j hj earlier h => (hearlier j earlier).1 (hfirst j hj earlier h)⟩
    · rintro ⟨others, hothers, i, step, hi, hfound, hfirst⟩
      obtain rfl := hsteps.unique hothers
      exact ⟨i, step, hi, (hstep i step).2 hfound,
        fun j hj earlier h => (hearlier j earlier).2 (hfirst j hj earlier h)⟩
  · rw [hlisted]
    refine iff_of_false (by simp) ?_
    rintro ⟨steps, hsteps, -⟩
    exact hnone steps hsteps

/-! ### The check -/

theorem toResult_eq_ok {excess : Option Excess} : toResult excess = .ok () ↔ excess = none := by
  cases excess <;> simp [toResult]

theorem toResult_eq_error {excess : Option Excess} {error : DocumentError} :
    toResult excess = .error error ↔ ∃ e, excess = some e ∧ error = .limitExceeded e.message := by
  cases excess <;> simp [toResult, eq_comm]

theorem checkTree_eq_ok :
    limits.checkTree tree = .ok () ↔
      tree.depth ≤ limits.maxNestingDepth.toNat ∧
      listLength tree "steps" ≤ limits.maxSteps.toNat ∧
      (∀ step ∈ ((tree.get? "steps").bind Value.asList?).getD [],
        listLength step "policies" ≤ limits.maxPoliciesPerStep.toNat) ∧
      listLength tree "triggers" ≤ limits.maxTriggers.toNat := by
  rw [checkTree, toResult_eq_ok, excess?]
  simp only [Option.or_eq_none_iff, depthExcess?_eq_none, stepsExcess?_eq_none, policiesExcess?_eq_none,
    triggersExcess?_eq_none, listLength_le_iff]

theorem checkTree_eq_ok_iff_admits : limits.checkTree tree = .ok () ↔ limits.Admits tree := by
  rw [checkTree_eq_ok, forall_listed_iff, listLength_le_iff, listLength_le_iff]
  simp only [listLength_le_iff]
  exact ⟨fun ⟨hdepth, hsteps, hpolicies, htriggers⟩ => ⟨hdepth, hsteps, hpolicies, htriggers⟩,
    fun ⟨hdepth, hsteps, hpolicies, htriggers⟩ => ⟨hdepth, hsteps, hpolicies, htriggers⟩⟩

theorem excess?_eq_some : limits.excess? tree = some excess ↔ limits.FirstExceeds tree excess := by
  simp only [excess?, Option.or_eq_some_iff, depthExcess?_eq_none, stepsExcess?_eq_none, policiesExcess?_eq_none,
    forall_listed_iff, listLength_le_iff, depthExcess?_eq_some, stepsExcess?_eq_some, policiesExcess?_eq_some,
    triggersExcess?_eq_some]
  constructor
  · rintro ((⟨hexceeds, htold, rfl⟩ | ⟨hexceeds, rfl⟩) | ⟨hdepth, ⟨steps, hsteps, hexceeds, rfl⟩ |
      ⟨hcount, ⟨steps, hsteps, i, step, hstep, ⟨policies, hpolicies, hexceeds, rfl⟩, hfirst⟩ |
        ⟨hadmits, triggers, htriggers, hexceeds, rfl⟩⟩⟩)
    · exact .depth hexceeds htold
    · exact .farTooDeep hexceeds
    · exact .steps hdepth hsteps hexceeds
    · exact .policies hdepth hsteps (hcount steps hsteps) hstep hpolicies hexceeds hfirst
    · exact .triggers hdepth hcount hadmits htriggers hexceeds
  · intro h
    cases h with
    | depth hexceeds htold => exact .inl (.inl ⟨hexceeds, htold, rfl⟩)
    | farTooDeep hexceeds => exact .inl (.inr ⟨hexceeds, rfl⟩)
    | steps hdepth hsteps hexceeds => exact .inr ⟨hdepth, .inl ⟨_, hsteps, hexceeds, rfl⟩⟩
    | policies hdepth hsteps hcount hstep hpolicies hexceeds hfirst =>
      refine .inr ⟨hdepth, .inr ⟨fun others hothers => ?_, .inl
        ⟨_, hsteps, _, _, hstep, ⟨_, hpolicies, hexceeds, rfl⟩, hfirst⟩⟩⟩
      rwa [← hsteps.unique hothers]
    | triggers hdepth hsteps hpolicies htriggers hexceeds =>
      exact .inr ⟨hdepth, .inr ⟨hsteps, .inr ⟨hpolicies, _, htriggers, hexceeds, rfl⟩⟩⟩

/-- A tree is accepted exactly if it is within all bounds, and otherwise the first bound that it exceeds is
reported.  The message tells how deep a tree is exactly if the depth exceeds its bound by at most eight levels
and fits a word. -/
theorem checkTree_reports_first_excess (limits : InputLimits) (tree : Value) :
    (limits.checkTree tree = .ok () ↔ limits.Admits tree) ∧
      (∀ error, limits.checkTree tree = .error error ↔
        ∃ excess, limits.FirstExceeds tree excess ∧ error = .limitExceeded excess.message) ∧
      (limits.checkTree tree = .error (.limitExceeded
          s!"nesting depth ({tree.depth}) exceeds maximum allowed ({limits.maxNestingDepth.toNat})") ↔
        limits.maxNestingDepth.toNat < tree.depth ∧
          tree.depth ≤ min (limits.maxNestingDepth.toNat + 8) (UInt64.size - 1)) := by
  have herror : ∀ error, limits.checkTree tree = .error error ↔
      ∃ excess, limits.FirstExceeds tree excess ∧ error = .limitExceeded excess.message := fun error => by
    simp only [checkTree, toResult_eq_error, excess?_eq_some]
  refine ⟨checkTree_eq_ok_iff_admits, herror, ?_⟩
  rw [herror]
  constructor
  · rintro ⟨excess, hfirst, hmessage⟩
    obtain ⟨depth, bound, rfl⟩ := Excess.eq_depth_of_message_eq (DocumentError.limitExceeded.inj hmessage).symm
    cases hfirst with
    | depth hexceeds htold => exact ⟨hexceeds, htold⟩
  · rintro ⟨hexceeds, htold⟩
    exact ⟨_, .depth hexceeds htold, rfl⟩

end InputLimits

end FlowCheck
