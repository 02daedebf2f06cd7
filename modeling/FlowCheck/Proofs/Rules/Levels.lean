import FlowCheck.Proofs.Rules.Standard
import FlowCheck.Validation

/-!
# Settings filter one analysis

The rules analyse a flow once and for all, as under the strictest settings, and other settings only judge each finding
by its code (`RuleSettings.judge`): they drop it, or change its severity to that of the level of its rule.

* A rule at a level of choice makes the same findings at every level, up to their severity (`Rule.check_eq_atLevel`),
  all with the code of the rule (`Rule.code_of_check`); no other rule reports one of these codes.
* So the findings under any settings are those under the strictest ones, judged one by one, and milder settings do not
  make a valid flow invalid (`run_eq_filterMap_judge`).
-/

namespace FlowCheck

/-! ### Settings -/

namespace RuleSettings

/-- All rules report errors and nothing is suppressed. -/
def strictest : RuleSettings where
  cycles := .error
  selfReference := .error
  unreachableSteps := .error
  disabled := []

/-- The level for findings with a code, if their severity is a matter of settings. -/
def level? (settings : RuleSettings) (code : String) : Option RuleLevel :=
  if code = Code.stepGraphCycle.name then some settings.cycles
  else if code = Code.stepSelfReference.name then some settings.selfReference
  else if code = Code.unreachableStep.name then some settings.unreachableSteps
  else none

/-- What settings make of a finding: it is dropped, gets the severity of its level, or stays as it is. -/
def judge (settings : RuleSettings) (finding : Finding) : Option Finding :=
  if settings.disabled.contains finding.code then none
  else
    match settings.level? finding.code with
    | none => some finding
    | some level => level.severity?.map fun severity => { finding with severity }

end RuleSettings

/-- The place of a level in the order from mild to strict. -/
def RuleLevel.rank : RuleLevel → Nat
  | allow => 0
  | warn => 1
  | error => 2

/-- No level is higher, and whatever is suppressed stays so. -/
structure RuleSettings.Milder (milder settings : RuleSettings) : Prop where
  cycles : milder.cycles.rank ≤ settings.cycles.rank
  selfReference : milder.selfReference.rank ≤ settings.selfReference.rank
  unreachableSteps : milder.unreachableSteps.rank ≤ settings.unreachableSteps.rank
  disabled : ∀ code ∈ settings.disabled, code ∈ milder.disabled

variable {settings milder : RuleSettings} {flow : Flow} {finding : Finding}

theorem level?_of_standard (h : finding.Standard) : settings.level? finding.code = none := by
  obtain ⟨code, hcode, hseverity⟩ := h
  rw [hcode]
  cases code with
  -- the three codes at a level of choice have no standard severity
  | stepGraphCycle | stepSelfReference | unreachableStep => cases hseverity
  | _ => rfl

/-! ### Rules at a level -/

/-- The findings of a rule at a level, made from those that it reports as errors. -/
def RuleLevel.atLevel (level : RuleLevel) (findings : List Finding) : List Finding :=
  match level.severity? with
  | none => []
  | some severity => findings.map fun finding => { finding with severity }

theorem map_severity_when {reason : Bool} {path : Option String} {message code : String} {old severity : Severity} :
    (Finding.when reason ⟨path, message, code, old⟩).map (fun finding => { finding with severity }) =
      Finding.when reason ⟨path, message, code, severity⟩ := by
  cases reason <;> rfl

theorem RuleLevel.quiet_atLevel {level : RuleLevel} (h : level ≠ .error) (findings : List Finding) :
    Quiet (level.atLevel findings) := by
  cases level with
  | allow => exact List.forall_mem_nil _
  | warn => exact List.forall_mem_map.2 fun _ _ => rfl
  | error => exact absurd rfl h

namespace Rules

theorem map_severity_selfReferences (severity : Severity) (i : Nat) (step : Step) :
    (selfReferences .error i step).map (fun finding => { finding with severity }) =
      selfReferences severity i step := by
  unfold selfReferences
  split
  · rfl
  · simp only [List.map_append, map_flatten_map, map_flatten_mapIdx, map_severity_when]

theorem selfReference_eq_atLevel (flow : Flow) (settings : RuleSettings) :
    selfReference flow settings = settings.selfReference.atLevel (selfReference flow .strictest) := by
  have herror : selfReference flow .strictest = (flow.steps.mapIdx (selfReferences .error)).flatten := rfl
  rw [herror]
  unfold selfReference RuleLevel.atLevel
  cases settings.selfReference.severity? with
  | none => rfl
  | some severity => simp only [map_flatten_mapIdx, map_severity_selfReferences]

theorem code_of_selfReference :
    ∀ finding ∈ selfReference flow settings, finding.code = Code.stepSelfReference.name := by
  unfold selfReference
  split
  · exact fun _ h => absurd h List.not_mem_nil
  · refine forall_mem_flatten_mapIdx.2 fun i hi => ?_
    unfold selfReferences
    split
    · exact fun _ h => absurd h List.not_mem_nil
    · simp only [List.forall_mem_append, forall_mem_flatten_map, forall_mem_flatten_mapIdx, forall_mem_when,
        implies_true, and_self]

theorem cycles_eq_atLevel (flow : Flow) (settings : RuleSettings) :
    cycles flow settings = settings.cycles.atLevel (cycles flow .strictest) := by
  have herror : cycles flow .strictest = (Graph.cycles flow.steps).map (cycle flow.steps .error) := rfl
  rw [herror]
  unfold cycles RuleLevel.atLevel
  cases settings.cycles.severity? with
  | none => rfl
  | some severity =>
    simp only [List.map_map]
    rfl

theorem code_of_cycles : ∀ finding ∈ cycles flow settings, finding.code = Code.stepGraphCycle.name := by
  unfold cycles
  split
  · exact fun _ h => absurd h List.not_mem_nil
  · exact List.forall_mem_map.2 fun members _ => rfl

theorem unreachableSteps_eq_atLevel (flow : Flow) (settings : RuleSettings) :
    unreachableSteps flow settings = settings.unreachableSteps.atLevel (unreachableSteps flow .strictest) := by
  unfold unreachableSteps RuleLevel.atLevel
  have herror : RuleSettings.strictest.unreachableSteps.severity? = some .error := rfl
  rw [herror]
  cases settings.unreachableSteps.severity? with
  | none => rfl
  | some severity =>
    cases flow.steps with
    | nil => rfl
    | cons first rest =>
      simp only [unreachable, map_flatten_mapIdx, map_severity_when]

theorem code_of_unreachableSteps :
    ∀ finding ∈ unreachableSteps flow settings, finding.code = Code.unreachableStep.name := by
  unfold unreachableSteps
  split
  · simp only [unreachable, forall_mem_flatten_mapIdx, forall_mem_when, implies_true]
  · exact fun _ h => absurd h List.not_mem_nil

end Rules

namespace Rule

variable {rule : Rule} {code : Code}

theorem code_of_check (h : rule.gradedCode? = some code) (flow : Flow) (settings : RuleSettings) :
    ∀ finding ∈ rule.check flow settings, finding.code = code.name := by
  cases rule with
  | selfReference => cases h; exact Rules.code_of_selfReference
  | cycles => cases h; exact Rules.code_of_cycles
  | unreachableSteps => cases h; exact Rules.code_of_unreachableSteps
  | _ => cases h

/-- The level changes nothing but the severity of the findings. -/
theorem check_eq_atLevel (h : rule.gradedCode? = some code) (flow : Flow) (settings : RuleSettings) :
    ∃ level, settings.level? code.name = some level ∧
      rule.check flow settings = level.atLevel (rule.check flow .strictest) := by
  cases rule with
  | selfReference => cases h; exact ⟨_, rfl, Rules.selfReference_eq_atLevel flow settings⟩
  | cycles => cases h; exact ⟨_, rfl, Rules.cycles_eq_atLevel flow settings⟩
  | unreachableSteps => cases h; exact ⟨_, rfl, Rules.unreachableSteps_eq_atLevel flow settings⟩
  | _ => cases h

/-- What is left of the findings of one rule is what the settings make of its findings under the strictest ones. -/
theorem filter_check_eq (rule : Rule) :
    (rule.check flow settings).filter (fun finding => !settings.disabled.contains finding.code) =
      (rule.check flow .strictest).filterMap settings.judge := by
  cases hgraded : rule.gradedCode? with
  | none =>
    rw [check_eq_of_not_graded hgraded .strictest, ← List.filterMap_eq_filter]
    refine List.filterMap_congr fun finding hmem => ?_
    rw [RuleSettings.judge, level?_of_standard (standard_of_check hgraded finding hmem), Option.guard]
    by_cases hdisabled : settings.disabled.contains finding.code = true
    · rw [if_pos hdisabled, if_neg (by simpa using hdisabled)]
    · rw [if_neg hdisabled, if_pos (by simpa using hdisabled)]
  | some code =>
    obtain ⟨level, hlevel, hcheck⟩ := check_eq_atLevel hgraded flow settings
    have hjudge : ∀ finding ∈ rule.check flow .strictest, settings.judge finding =
        if settings.disabled.contains code.name then none
        else level.severity?.map fun severity => { finding with severity } := by
      intro finding hmem
      rw [RuleSettings.judge, code_of_check hgraded flow .strictest finding hmem, hlevel]
    have hcode := code_of_check hgraded flow settings
    rw [List.filterMap_congr hjudge, List.filter_congr fun finding hmem => by rw [hcode finding hmem], hcheck]
    cases settings.disabled.contains code.name with
    | true => simp
    | false => cases hseverity : level.severity? <;> simp [RuleLevel.atLevel, hseverity, List.filterMap_eq_map']

/-- Whether a rule searches the step graph. -/
def searches : Rule → Bool
  | cycles | unreachableSteps => true
  | _ => false

theorem quiet_check_of_searches (h : rule.searches = true) (hcycles : settings.cycles ≠ .error)
    (hunreachable : settings.unreachableSteps ≠ .error) : Quiet (rule.check flow settings) := by
  cases rule with
  | cycles =>
    rw [check, Rules.cycles_eq_atLevel]
    exact RuleLevel.quiet_atLevel hcycles _
  | unreachableSteps =>
    rw [check, Rules.unreachableSteps_eq_atLevel]
    exact RuleLevel.quiet_atLevel hunreachable _
  | _ => cases h

end Rule

/-! ### All rules -/

theorem Rule.mem_all (rule : Rule) : rule ∈ all := by
  cases rule <;> decide

theorem Rule.mem_run (rule : Rule) (h : finding ∈ rule.check flow settings)
    (hcode : settings.disabled.contains finding.code = false) : finding ∈ run flow settings :=
  List.mem_filter.2 ⟨List.mem_flatMap.2 ⟨rule, rule.mem_all, h⟩, by rw [hcode]; rfl⟩

/-- With cycles and unreachable steps below the level of errors, what blocks is found without a search. -/
theorem Rule.filter_isBlocking_run (hcycles : settings.cycles ≠ .error)
    (hunreachable : settings.unreachableSteps ≠ .error) :
    (run flow settings).filter (·.isBlocking) =
      ((all.filter fun rule => !rule.searches).flatMap (·.check flow settings)).filter fun finding =>
        finding.isBlocking && !settings.disabled.contains finding.code := by
  rw [run, List.filter_filter, List.filter_flatMap, List.filter_flatMap]
  refine (flatMap_filter_of_forall fun rule hrule => List.filter_eq_nil_iff.2 fun finding hmem => ?_).symm
  rw [quiet_check_of_searches (by simpa using hrule) hcycles hunreachable finding hmem]
  exact Bool.false_ne_true

theorem Rule.quiet_run (hcycles : settings.cycles ≠ .error) (hunreachable : settings.unreachableSteps ≠ .error)
    (h : ((all.filter fun rule => !rule.searches).flatMap (·.check flow settings)).filter (fun finding =>
      finding.isBlocking && !settings.disabled.contains finding.code) = []) : Quiet (run flow settings) := by
  rw [← filter_isBlocking_run hcycles hunreachable, List.filter_eq_nil_iff] at h
  exact fun finding hmem => Bool.eq_false_iff.2 (h finding hmem)

theorem filterMap_judge_run (flow : Flow) (settings : RuleSettings) :
    (Rule.run flow .strictest).filterMap settings.judge = Rule.run flow settings := by
  have hall : Rule.run flow .strictest = Rule.all.flatMap (·.check flow .strictest) :=
    List.filter_eq_self.2 fun _ _ => rfl
  rw [hall, Rule.run, List.filter_flatMap, List.filterMap_flatMap]
  exact List.flatMap_congr fun rule _ => rule.filter_check_eq.symm

/-! ### Milder settings -/

namespace RuleSettings

/-- Whether a code has a level does not depend on the settings, and milder settings give it no higher one. -/
theorem Milder.level?_le (h : milder.Milder settings) (code : String) :
    milder.level? code = none ∧ settings.level? code = none ∨
      ∃ low high, milder.level? code = some low ∧ settings.level? code = some high ∧ low.rank ≤ high.rank := by
  unfold level?
  split
  · exact Or.inr ⟨_, _, rfl, rfl, h.cycles⟩
  · split
    · exact Or.inr ⟨_, _, rfl, rfl, h.selfReference⟩
    · split
      · exact Or.inr ⟨_, _, rfl, rfl, h.unreachableSteps⟩
      · exact Or.inl ⟨rfl, rfl⟩

/-- Only the highest level blocks. -/
theorem blocks_of_rank_le {low high : RuleLevel} (h : low.rank ≤ high.rank) {severity : Severity}
    (hlow : low.severity? = some severity) (hblocks : severity.blocks = true) :
    high.severity? = some severity := by
  cases low with
  | allow => cases hlow
  | warn =>
    cases hlow
    cases hblocks
  | error =>
    cases high with
    | error => exact hlow
    | _ => simp [RuleLevel.rank] at h

/-- What blocks under milder settings blocks under the settings. -/
theorem Milder.judge_eq_some (h : milder.Milder settings) {kept : Finding} (hkept : milder.judge finding = some kept)
    (hblocks : kept.isBlocking = true) : settings.judge finding = some kept := by
  unfold judge at hkept ⊢
  split at hkept
  · cases hkept
  · rename_i hdisabled
    have hdisabled' : ¬settings.disabled.contains finding.code = true := by
      intro hmem
      exact hdisabled (by simpa using h.disabled _ (by simpa using hmem))
    rw [if_neg hdisabled']
    rcases h.level?_le finding.code with ⟨hlow, hhigh⟩ | ⟨low, high, hlow, hhigh, hle⟩
    · rw [hlow] at hkept
      rw [hhigh]
      exact hkept
    · simp only [hlow, Option.map_eq_some_iff] at hkept
      obtain ⟨severity, hseverity, rfl⟩ := hkept
      simp only [hhigh, blocks_of_rank_le hle hseverity hblocks, Option.map_some]

end RuleSettings

theorem quiet_run_of_milder (h : milder.Milder settings) (hquiet : Quiet (Rule.run flow settings)) :
    Quiet (Rule.run flow milder) := by
  intro kept hmem
  rw [← filterMap_judge_run, List.mem_filterMap] at hmem
  obtain ⟨finding, hfinding, hkept⟩ := hmem
  by_contra hblocks
  have hblocks : kept.isBlocking = true := by simpa using hblocks
  have hreported : kept ∈ Rule.run flow settings := by
    rw [← filterMap_judge_run]
    exact List.mem_filterMap.2 ⟨finding, hfinding, h.judge_eq_some hkept hblocks⟩
  rw [hquiet kept hreported] at hblocks
  cases hblocks

theorem valid_of_milder (h : milder.Milder settings) {limits : InputLimits}
    (hvalid : (validateFlow ⟨settings, limits⟩ flow).valid = true) :
    (validateFlow ⟨milder, limits⟩ flow).valid = true := by
  unfold validateFlow Outcome.ofFlow at hvalid ⊢
  split
  · rename_i hshape
    rw [if_pos hshape] at hvalid
    exact valid_ofFindings.2 (quiet_run_of_milder h (valid_ofFindings.1 hvalid))
  · rename_i hshape
    rw [if_neg hshape] at hvalid
    exact hvalid

/-- The findings under any settings are those under the strictest settings, judged one by one by their codes; so a
valid flow stays valid when levels are lowered or codes are suppressed. -/
theorem run_eq_filterMap_judge (flow : Flow) (settings : RuleSettings) :
    Rule.run flow settings = (Rule.run flow .strictest).filterMap settings.judge ∧
      ∀ (milder : RuleSettings) (limits : InputLimits), milder.Milder settings →
        (validateFlow ⟨settings, limits⟩ flow).valid = true → (validateFlow ⟨milder, limits⟩ flow).valid = true :=
  ⟨(filterMap_judge_run flow settings).symm, fun _ _ h => valid_of_milder h⟩

/-- Two steps that lead to each other, and the second to itself. -/
def knot : Flow where
  metadata := ⟨"f", "1.0.0", none, none, [], [], none, none⟩
  triggers := []
  steps := [⟨"a", "A", none, .map ⟨"x", none⟩, none, [], ["b"], none⟩,
    ⟨"b", "B", none, .map ⟨"x", none⟩, none, [], ["a", "b"], none⟩]
  observability := none

theorem Graph.cycles_knot : cycles knot.steps = [[0, 1]] := by
  have hrows : knot.steps.mapIdx (successEdges knot.steps) = [[1], [0, 1]] := by decide +kernel
  rw [cycles, edgeTable, hrows]
  cbv

/-- Settings under which the knot is valid: its loops are no errors. -/
def lenient : RuleSettings where
  cycles := .warn
  selfReference := .warn

theorem run_eq_filterMap_judge_of_knot :
    (validateFlow ⟨.strictest, {}⟩ knot).valid = false ∧ (validateFlow ⟨lenient, {}⟩ knot).valid = true ∧
      { lenient with cycles := .allow, disabled := ["STEP_SELF_REFERENCE"] }.Milder lenient ∧
      Rule.run knot lenient = (Rule.run knot .strictest).filterMap lenient.judge ∧
      (validateFlow ⟨{ lenient with cycles := .allow, disabled := ["STEP_SELF_REFERENCE"] }, {}⟩ knot).valid =
        true := by
  have hinvalid : (validateFlow ⟨.strictest, {}⟩ knot).valid = false := by
    refine Bool.eq_false_iff.2 fun hvalid => ?_
    have hself : ⟨some "steps[1].next[1]", "step 'b' lists itself as a successor", "STEP_SELF_REFERENCE", .error⟩ ∈
        Rule.run knot .strictest := Rule.mem_run .selfReference (by decide +kernel) rfl
    exact absurd (valid_ofFindings.1 hvalid _ hself) (by decide)
  have hvalid : (validateFlow ⟨lenient, {}⟩ knot).valid = true :=
    valid_ofFindings.2 (Rule.quiet_run (by decide) (by decide) (by decide +kernel))
  have hmilder : { lenient with cycles := .allow, disabled := ["STEP_SELF_REFERENCE"] }.Milder lenient :=
    ⟨by decide, by decide, by decide, fun _ h => absurd h List.not_mem_nil⟩
  exact ⟨hinvalid, hvalid, hmilder, (run_eq_filterMap_judge knot lenient).1,
    (run_eq_filterMap_judge knot lenient).2 _ {} hmilder hvalid⟩

end FlowCheck
