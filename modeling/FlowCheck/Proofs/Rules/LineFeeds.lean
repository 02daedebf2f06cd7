import FlowCheck.Proofs.Instants
import FlowCheck.Proofs.LineFeeds
import FlowCheck.Proofs.Schema.Texts
import FlowCheck.Proofs.Text.Shown
import FlowCheck.Rules.Registry

/-!
# Line feeds in findings of the rules

Rules quote identifiers and names of steps, targets, the version, owners, cron expressions and addresses as they are,
and nothing else of a flow but numbers and dates.  So each finding of a rule breaks from the texts of the flow
(`Rule.breaksFrom_of_run`).
-/

namespace FlowCheck

open Text

variable {sources : List String}

/-! ### Dates and versions -/

theorem Instant.oneLine_padded (width n : Nat) : OneLine (padded width n) :=
  fun h => absurd (isDigit_of_mem_padded width n h) (by decide)

theorem Instant.oneLine_offsetText (t : Instant) : OneLine t.offsetText := by
  have hyear : OneLine (yearText t.year) := by
    unfold yearText
    split
    · exact oneLine_padded _ _
    · split <;> exact oneLine_append.2 ⟨by decide, oneLine_padded _ _⟩
  have hfraction : OneLine (fractionText (t.nanos % 1000000000)) := by
    unfold fractionText
    split
    · decide
    split
    · exact oneLine_append.2 ⟨by decide, oneLine_padded _ _⟩
    split <;> exact oneLine_append.2 ⟨by decide, oneLine_padded _ _⟩
  simp only [offsetText, civilText, oneLine_append, hyear, hfraction, oneLine_padded, and_true, true_and]
  decide

theorem SemanticVersion.Fault.oneLine_message (fault : Fault) : OneLine fault.message := by
  have hpart : ∀ part : Part, OneLine part.name := by
    intro part
    cases part <;> decide
  cases fault with
  | empty => decide
  | unexpectedEnd part | leadingZero part | emptySegment part => exact oneLine_append.2 ⟨by decide, hpart part⟩
  | overflow part => exact (hpart part).between (by decide) (by decide)
  | unexpectedIn part c | unexpectedAfter part c =>
    exact oneLine_append.2 ⟨(oneLine_quotedChar c).between (by decide) (by decide), hpart part⟩

theorem DecimalStyle.oneLine_text (style : DecimalStyle) (x : Double) : OneLine (style.text x) :=
  fun h => absurd (mem_text h) (by decide)

namespace Rules

/-! ### Checks that several rules share -/

section Checks

variable {path : Path} {field message : String} {code : Code}

theorem breaksFrom_when {reason : Bool} {severity : Severity} (hpath : OneLine path.text)
    (hmessage : BreaksFrom sources message) :
    ∀ finding ∈ Finding.when reason ⟨some path.text, message, code.name, severity⟩, finding.BreaksFrom sources :=
  forall_mem_when.2 fun _ => breaksFrom_of_message hpath hmessage

/-- A finding at a field with a message that quotes nothing. -/
theorem breaksFrom_field {reason : Bool} {severity : Severity} (hpath : OneLine path.text) (hfield : OneLine field)
    (hmessage : OneLine message) :
    ∀ finding ∈ Finding.when reason ⟨some (path.field field).text, message, code.name, severity⟩,
      finding.BreaksFrom sources :=
  breaksFrom_when (Path.oneLine_field.2 ⟨hpath, hfield⟩) hmessage.breaksFrom

theorem breaksFrom_requireText {text : String} (hpath : OneLine path.text) (hfield : OneLine field)
    (hmessage : OneLine message) :
    ∀ finding ∈ requireText path field code message text, finding.BreaksFrom sources :=
  breaksFrom_field hpath hfield hmessage

theorem breaksFrom_requirePositive {zero : Bool} (hpath : OneLine path.text) (hfield : OneLine field) :
    ∀ finding ∈ requirePositive path field code zero, finding.BreaksFrom sources :=
  breaksFrom_field hpath hfield (by simpa using ⟨hfield, by decide⟩)

theorem breaksFrom_requireSome {texts : List String} (hpath : OneLine path.text) (hfield : OneLine field)
    (hmessage : OneLine message) :
    ∀ finding ∈ requireSome path field code message texts, finding.BreaksFrom sources :=
  breaksFrom_field hpath hfield hmessage

theorem breaksFrom_requireQos (qos : UInt32) (hpath : OneLine path.text) :
    ∀ finding ∈ requireQos path qos, finding.BreaksFrom sources :=
  breaksFrom_field hpath (by decide) (oneLine_append.2 ⟨by decide, oneLine_repr qos.toNat⟩)

theorem breaksFrom_requireJdbc {url : String} (hurl : url ∈ sources) (hpath : OneLine path.text) :
    ∀ finding ∈ requireJdbc path code url, finding.BreaksFrom sources :=
  breaksFrom_when (Path.oneLine_field.2 ⟨hpath, by decide⟩)
    ((breaksFrom_of_mem hurl).between (by decide) (by decide))

theorem breaksFrom_unitRate {what : String} {rate : Double} (hpath : OneLine path.text) (hfield : OneLine field)
    (hwhat : OneLine what) : ∀ finding ∈ unitRate path field code what rate, finding.BreaksFrom sources :=
  breaksFrom_field hpath hfield (oneLine_append.2 ⟨oneLine_append.2 ⟨hwhat, by decide⟩, DecimalStyle.oneLine_text _ _⟩)

end Checks

/-! ### Metadata and observability -/

variable {path : Path} {flow : Flow}

theorem breaksFrom_owner {i : Nat} {o : Owner} (h : Owner.record.heldTexts o ⊆ sources) :
    ∀ finding ∈ owner i o, finding.BreaksFrom sources := by
  have hpath : OneLine ((((Path.mk "metadata" []).field "owners").index i).field "email").text := by simp +decide
  have hname : o.name ∈ sources := h (by simp [Owner.record])
  have hemail : o.email ∈ sources := h (by simp [Owner.record])
  have hopening : BreaksFrom sources ("owner '" ++ o.name ++ "' has an invalid email '") :=
    (breaksFrom_of_mem hname).between (by decide) (by decide)
  exact breaksFrom_when hpath ((hopening.append (breaksFrom_of_mem hemail)).append (OneLine.breaksFrom (by decide)))

theorem breaksFrom_version {text : String} (h : text ∈ sources) :
    ∀ finding ∈ version text, finding.BreaksFrom sources := by
  unfold version
  split
  · exact List.forall_mem_nil _
  · rename_i fault _
    have hpath : OneLine ((Path.mk "metadata" []).field "version").text := by decide
    have hquoted : BreaksFrom sources ("version '" ++ text ++ "' is not a semantic version: ") :=
      (breaksFrom_of_mem h).between (by decide) (by decide)
    exact List.forall_mem_singleton.2
      (breaksFrom_of_message hpath (hquoted.append fault.oneLine_message.breaksFrom))

theorem breaksFrom_metadata {m : Metadata} (h : Metadata.record.heldTexts m ⊆ sources) :
    ∀ finding ∈ metadata m, finding.BreaksFrom sources := by
  have hversion : m.version ∈ sources := h (by simp [Metadata.record])
  have howners : ∀ o ∈ m.owners, Owner.record.heldTexts o ⊆ sources := by
    intro o ho s hs
    refine h ?_
    simp only [Metadata.record, Record.heldTexts, Fields.heldTexts, Field.heldTexts, Schema.heldTexts, List.mem_append]
    exact .inr (.inr (.inr (.inr (.inr (.inl (List.mem_flatMap.2 ⟨o, ho, hs⟩))))))
  simp only [metadata, List.forall_mem_append]
  refine ⟨⟨⟨⟨⟨?_, breaksFrom_version hversion⟩, ?_⟩, ?_⟩, ?_⟩, ?_⟩
  · exact breaksFrom_requireText (by decide) (by decide) (by decide)
  · exact breaksFrom_field (by decide) (by decide) (by decide)
  · exact forall_mem_flatten_mapIdx.2 fun i hi => breaksFrom_owner (howners _ (List.getElem_mem hi))
  · exact breaksFrom_field (by decide) (by decide) (by decide)
  · exact breaksFrom_field (by decide) (by decide) (by decide)

theorem breaksFrom_observability (o : Observability) : ∀ finding ∈ observability o, finding.BreaksFrom sources := by
  have hpath : OneLine (Path.mk "observability" []).text := by decide
  have hsampling : OneLine ((Path.mk "observability" []).field "payloadSampling").text := by decide
  simp only [observability, payloadSampling, List.forall_mem_append, forall_mem_flatten_map]
  refine ⟨breaksFrom_unitRate hpath (by decide) (by decide), fun sampling _ => ⟨?_, ?_⟩⟩
  · exact breaksFrom_unitRate hsampling (by decide) (by decide)
  · exact breaksFrom_field hsampling (by decide) (by decide)

/-! ### Triggers, actions, transports and policies -/

theorem breaksFrom_dateRange (start finish : Option Instant) (hpath : OneLine path.text) :
    ∀ finding ∈ dateRange path start finish, finding.BreaksFrom sources := by
  unfold dateRange
  split
  · rename_i start finish
    have hstart : OneLine ("start date " ++ start.offsetText ++ " must be before end date ") :=
      start.oneLine_offsetText.between (by decide) (by decide)
    exact breaksFrom_field hpath (by decide) (oneLine_append.2 ⟨hstart, finish.oneLine_offsetText⟩)
  · exact List.forall_mem_nil _

theorem breaksFrom_trigger {t : Trigger} (hpath : OneLine path.text) (h : Trigger.schema.heldTexts t ⊆ sources) :
    ∀ finding ∈ trigger path t, finding.BreaksFrom sources := by
  cases t with
  | http t =>
    have hauth : OneLine (path.field "auth").text := Path.oneLine_field.2 ⟨hpath, by decide⟩
    have hlimit : OneLine (path.field "rateLimit").text := Path.oneLine_field.2 ⟨hpath, by decide⟩
    simp only [trigger, List.forall_mem_append]
    exact ⟨breaksFrom_field hauth (by decide) (by decide), breaksFrom_field hlimit (by decide) (by decide)⟩
  | schedule t =>
    have hcron : t.cron ∈ sources := h (by simp [Trigger.schema, Trigger.variants, ScheduleTrigger.record])
    simp only [trigger, List.forall_mem_append]
    refine ⟨?_, breaksFrom_dateRange _ _ hpath⟩
    have hquoted : BreaksFrom sources ("cron expression '" ++ t.cron ++ "' has ") :=
      (breaksFrom_of_mem hcron).between (by decide) (by decide)
    have hcount := oneLine_repr (Text.fields t.cron.toList).length
    exact breaksFrom_when (Path.oneLine_field.2 ⟨hpath, by decide⟩)
      ((hquoted.append hcount.breaksFrom).append (OneLine.breaksFrom (by decide)))
  | kafka t => exact breaksFrom_requireSome hpath (by decide) (by decide)
  | mqtt t => exact breaksFrom_requireQos t.qos hpath
  | sftp t =>
    have hmessage : OneLine "sftp trigger needs a password or a private key" := by decide
    exact breaksFrom_when hpath hmessage.breaksFrom
  | jdbc t =>
    have hurl : t.url ∈ sources := h (by simp [Trigger.schema, Trigger.variants, JdbcTrigger.record])
    exact breaksFrom_requireJdbc hurl hpath
  | fileWatch t => exact breaksFrom_field hpath (by decide) (by decide)

theorem breaksFrom_stepKind (k : StepKind) (hpath : OneLine path.text) :
    ∀ finding ∈ stepKind path k, finding.BreaksFrom sources := by
  have htext : ∀ {field : String} {code : Code} {message text : String}, OneLine field → OneLine message →
      ∀ finding ∈ requireText path field code message text, finding.BreaksFrom sources :=
    breaksFrom_requireText hpath
  have hpositive : ∀ {field : String} {code : Code} {zero : Bool}, OneLine field →
      ∀ finding ∈ requirePositive path field code zero, finding.BreaksFrom sources :=
    breaksFrom_requirePositive hpath
  cases k with
  | connector s =>
    simp only [stepKind, List.forall_mem_append]
    exact ⟨⟨htext (by decide) (by decide), htext (by decide) (by decide)⟩, hpositive (by decide)⟩
  | map s => exact htext (by decide) (by decide)
  | script s =>
    simp only [stepKind, List.forall_mem_append]
    exact ⟨htext (by decide) (by decide), hpositive (by decide)⟩
  | enrich s =>
    simp only [stepKind, List.forall_mem_append]
    exact ⟨htext (by decide) (by decide), htext (by decide) (by decide)⟩
  | branch s =>
    have hcondition : ∀ i, OneLine ((path.field "conditions").index i).text := fun i =>
      Path.oneLine_index.2 (Path.oneLine_field.2 ⟨hpath, by decide⟩)
    simp only [stepKind, branchCondition, List.forall_mem_append, forall_mem_flatten_mapIdx]
    exact ⟨breaksFrom_field hpath (by decide) (by decide), fun i hi =>
      ⟨breaksFrom_requireText (hcondition i) (by decide) (by decide),
        breaksFrom_requireText (hcondition i) (by decide) (by decide)⟩⟩
  | retry s => exact hpositive (by decide)
  | dlq s => exact htext (by decide) (by decide)
  | throttle s =>
    have hrate : OneLine ("throttle rate must be greater than 0, got " ++ DecimalStyle.plain.text s.rate) :=
      oneLine_append.2 ⟨by decide, DecimalStyle.oneLine_text _ _⟩
    simp only [stepKind, List.forall_mem_append]
    exact ⟨breaksFrom_field hpath (by decide) hrate, hpositive (by decide)⟩
  | checkpoint s => exact htext (by decide) (by decide)
  | circuitBreaker s =>
    simp only [stepKind, List.forall_mem_append]
    exact ⟨hpositive (by decide), hpositive (by decide)⟩

theorem breaksFrom_transport {t : Transport} (hpath : OneLine path.text)
    (h : Transport.schema.heldTexts t ⊆ sources) : ∀ finding ∈ transport path t, finding.BreaksFrom sources := by
  have hkind : OneLine t.kind := by cases t <;> simp +decide [Transport.kind]
  have hrequire : ∀ {field : String} {code : Code} {text : String}, OneLine field →
      ∀ finding ∈ requireText path field code s!"{t.kind} transport requires {field}" text,
        finding.BreaksFrom sources := fun hfield =>
    breaksFrom_requireText hpath hfield (oneLine_append.2 ⟨oneLine_append.2 ⟨hkind, by decide⟩, hfield⟩)
  cases t with
  | rest t =>
    simp only [transport, List.forall_mem_append]
    exact ⟨hrequire (by decide), breaksFrom_requirePositive hpath (by decide)⟩
  | soap t | graphQl t | sftp t =>
    simp only [transport, List.forall_mem_append]
    exact ⟨hrequire (by decide), hrequire (by decide)⟩
  | jdbc t =>
    have hurl : t.url ∈ sources := h (by simp [Transport.schema, Transport.variants, JdbcTransport.record])
    simp only [transport, List.forall_mem_append]
    exact ⟨breaksFrom_requireJdbc hurl hpath, hrequire (by decide)⟩
  | kafka t =>
    simp only [transport, List.forall_mem_append]
    exact ⟨hrequire (by decide), breaksFrom_requireSome hpath (by decide) (by decide)⟩
  | mqtt t =>
    simp only [transport, List.forall_mem_append]
    exact ⟨⟨hrequire (by decide), hrequire (by decide)⟩, breaksFrom_requireQos t.qos hpath⟩
  | fs t | custom t => exact hrequire (by decide)

theorem breaksFrom_policy (p : Policy) (hpath : OneLine path.text) :
    ∀ finding ∈ policy path p, finding.BreaksFrom sources := by
  cases p with
  | qos p => exact breaksFrom_requirePositive hpath (by decide)
  | idempotency p =>
    simp only [policy, List.forall_mem_append]
    exact ⟨breaksFrom_requireText hpath (by decide) (by decide), breaksFrom_requirePositive hpath (by decide)⟩
  | mtls p =>
    simp only [policy, List.forall_mem_append]
    exact ⟨breaksFrom_requireText hpath (by decide) (by decide), breaksFrom_requireText hpath (by decide) (by decide)⟩
  | opa p => exact breaksFrom_requireText hpath (by decide) (by decide)
  | secrets p =>
    simp only [policy, List.forall_mem_append]
    exact ⟨breaksFrom_requireSome hpath (by decide) (by decide), breaksFrom_requirePositive hpath (by decide)⟩

/-! ### The step graph -/

variable {steps : List Step} {step : Step} {i : Nat}

theorem oneLine_stepPath (i : Nat) : OneLine (stepPath i).text :=
  Path.oneLine_index.2 (by decide)

theorem oneLine_stepField {field : String} (hfield : OneLine field) : OneLine ((stepPath i).field field).text :=
  Path.oneLine_field.2 ⟨oneLine_stepPath i, hfield⟩

theorem breaksFrom_stepId (h : Step.record.heldTexts step ⊆ sources) :
    ∀ finding ∈ stepId steps i step, finding.BreaksFrom sources := by
  have hpath : OneLine ((stepPath i).field "id").text := oneLine_stepField (by decide)
  have hname : step.name ∈ sources := h (by simp [Step.record])
  have hid : step.id ∈ sources := h (by simp [Step.record])
  unfold stepId
  split
  · exact List.forall_mem_singleton.2
      (breaksFrom_of_message hpath ((breaksFrom_of_mem hname).between (by decide) (by decide)))
  · split
    · rename_i first _
      have hquoted : BreaksFrom sources ("duplicate step id '" ++ step.id ++ "' (first declared at steps[") :=
        (breaksFrom_of_mem hid).between (by decide) (by decide)
      exact breaksFrom_when hpath
        ((hquoted.append (oneLine_repr first).breaksFrom).append (OneLine.breaksFrom (by decide)))
    · exact List.forall_mem_nil _

/-- Branches lead to texts of their step, and the places of the targets have paths on one line. -/
theorem mem_branchRoutes (hpath : OneLine path.text) {k : StepKind} (h : StepKind.schema.heldTexts k ⊆ sources) :
    ∀ route ∈ branchRoutes path k, OneLine route.1.text ∧ route.2 ∈ sources := by
  intro route hroute
  unfold branchRoutes at hroute
  split at hroute
  · rename_i s
    rcases List.mem_append.1 hroute with hroute | hroute
    · obtain ⟨j, hj, rfl⟩ := List.mem_mapIdx.1 hroute
      have hcondition : s.conditions[j].target ∈ BranchCondition.record.heldTexts s.conditions[j] := by
        simp [BranchCondition.record]
      have hmem : s.conditions[j] ∈ s.conditions := List.getElem_mem hj
      refine ⟨by simp +decide [hpath], h ?_⟩
      simp only [StepKind.schema, StepKind.variants, BranchStep.record, Schema.heldTexts, Variants.heldTexts,
        Record.heldTexts, Fields.heldTexts, Field.heldTexts, List.mem_append, List.mem_flatMap]
      exact .inl ⟨_, hmem, hcondition⟩
    · obtain ⟨target, htarget, rfl⟩ := List.mem_map.1 hroute
      refine ⟨by simp +decide [hpath], h ?_⟩
      simp [StepKind.schema, StepKind.variants, BranchStep.record, Option.mem_toList.1 htarget]
  · exact absurd hroute List.not_mem_nil

/-- The texts of a step that the rules on references quote. -/
structure Quotable (sources : List String) (step : Step) : Prop where
  id : step.id ∈ sources
  next : ∀ target ∈ step.next, target ∈ sources
  error : ∀ target ∈ step.error, target ∈ sources
  route : ∀ path, OneLine path.text →
    ∀ route ∈ branchRoutes path step.action, OneLine route.1.text ∧ route.2 ∈ sources

theorem quotable_of_heldTexts (h : Step.record.heldTexts step ⊆ sources) : Quotable sources step where
  id := h (by simp [Step.record])
  next target htarget := h (by simp [Step.record, htarget])
  error target htarget := h (by simp [Step.record, Option.mem_def.1 htarget])
  route path hpath := mem_branchRoutes hpath fun s hs => h (by simp [Step.record, hs])

theorem breaksFrom_references (h : Quotable sources step) :
    ∀ finding ∈ references steps i step, finding.BreaksFrom sources := by
  have hquoted : ∀ {opening middle target : String}, OneLine opening → OneLine middle → target ∈ sources →
      BreaksFrom sources (opening ++ step.id ++ middle ++ target ++ "'") := fun hopening hmiddle htarget =>
    (((breaksFrom_of_mem h.id).between hopening hmiddle).append (breaksFrom_of_mem htarget)).append
      (OneLine.breaksFrom (by decide))
  simp only [references, List.forall_mem_append, forall_mem_flatten_map, forall_mem_flatten_mapIdx]
  refine ⟨⟨fun j hj => ?_, fun target htarget => ?_⟩, fun route hroute => ?_⟩
  · exact breaksFrom_when (Path.oneLine_index.2 (oneLine_stepField (by decide)))
      (hquoted (by decide) (by decide) (h.next _ (List.getElem_mem hj)))
  · exact breaksFrom_when (oneLine_stepField (by decide))
      (hquoted (by decide) (by decide) (h.error target (Option.mem_toList.1 htarget)))
  · obtain ⟨hpath, htarget⟩ := h.route _ (oneLine_stepPath i) route hroute
    exact breaksFrom_when hpath (hquoted (by decide) (by decide) htarget)

theorem breaksFrom_selfReferences {severity : Severity} (h : Quotable sources step) :
    ∀ finding ∈ selfReferences severity i step, finding.BreaksFrom sources := by
  have hquoted : ∀ {opening closing : String}, OneLine opening → OneLine closing →
      BreaksFrom sources (opening ++ step.id ++ closing) := (breaksFrom_of_mem h.id).between
  unfold selfReferences
  dsimp only
  split
  · exact List.forall_mem_nil _
  simp only [List.forall_mem_append, forall_mem_flatten_map, forall_mem_flatten_mapIdx]
  refine ⟨⟨fun j hj => ?_, fun target htarget => ?_⟩, fun route hroute => ?_⟩
  · exact breaksFrom_when (Path.oneLine_index.2 (oneLine_stepField (by decide))) (hquoted (by decide) (by decide))
  · exact breaksFrom_when (oneLine_stepField (by decide)) (hquoted (by decide) (by decide))
  · exact breaksFrom_when (h.route _ (oneLine_stepPath i) route hroute).1 (hquoted (by decide) (by decide))

theorem breaksFrom_cycle {severity : Severity} {members : List Nat} (h : ∀ step ∈ steps, step.id ∈ sources) :
    (cycle steps severity members).BreaksFrom sources := by
  have hids : ∀ id ∈ members.filterMap fun i => (steps[i]?).map (·.id), BreaksFrom sources id := by
    intro id hid
    obtain ⟨i, -, hsome⟩ := List.mem_filterMap.1 hid
    obtain ⟨step, hstep, rfl⟩ := Option.map_eq_some_iff.1 hsome
    exact breaksFrom_of_mem (h step (List.mem_of_getElem? hstep))
  exact breaksFrom_of_message (oneLine_stepPath _)
    ((breaksFrom_intercalate (by decide) hids).between (by decide) (by decide))

theorem breaksFrom_unreachable {first : Step} {severity : Severity} (hfirst : first.id ∈ sources)
    (h : ∀ step ∈ flow.steps, step.id ∈ sources) :
    ∀ finding ∈ unreachable flow first severity, finding.BreaksFrom sources := by
  refine forall_mem_flatten_mapIdx.2 fun i hi => ?_
  have hid : flow.steps[i].id ∈ sources := h _ (List.getElem_mem hi)
  have hquoted : BreaksFrom sources
      ("step '" ++ flow.steps[i].id ++ "' is unreachable from the first step '" ++ first.id ++ "'") :=
    (((breaksFrom_of_mem hid).between (by decide) (by decide)).append (breaksFrom_of_mem hfirst)).append
      (OneLine.breaksFrom (by decide))
  exact breaksFrom_when (oneLine_stepPath i) hquoted

end Rules

/-! ### All rules -/

namespace Rule

variable {flow : Flow} {settings : RuleSettings}

/-- The parts of a flow have texts of the flow. -/
theorem heldTexts_parts (flow : Flow) :
    Metadata.record.heldTexts flow.metadata ⊆ Flow.record.heldTexts flow ∧
      (∀ t ∈ flow.triggers, Trigger.schema.heldTexts t ⊆ Flow.record.heldTexts flow) ∧
      ∀ step ∈ flow.steps, Step.record.heldTexts step ⊆ Flow.record.heldTexts flow := by
  refine ⟨fun s hs => ?_, fun t ht s hs => ?_, fun step hstep s hs => ?_⟩ <;>
    simp only [Flow.record, Record.heldTexts, Fields.heldTexts, Field.heldTexts, Schema.heldTexts, List.mem_append,
      List.mem_flatMap]
  · exact .inl hs
  · exact .inr (.inl ⟨t, ht, hs⟩)
  · exact .inr (.inr (.inl ⟨step, hstep, hs⟩))

theorem heldTexts_transport {step : Step} {t : Transport} (ht : t ∈ step.transport.toList) :
    Transport.schema.heldTexts t ⊆ Step.record.heldTexts step := by
  intro s hs
  simp only [Step.record, Record.heldTexts, Fields.heldTexts, Field.heldTexts, List.mem_append, List.mem_flatMap]
  exact .inr (.inr (.inr (.inr (.inl ⟨t, ht, hs⟩))))

theorem breaksFrom_of_check (rule : Rule) :
    ∀ finding ∈ rule.check flow settings, finding.BreaksFrom (Flow.record.heldTexts flow) := by
  obtain ⟨hmetadata, htriggers, hsteps⟩ := heldTexts_parts flow
  have hstep : ∀ i (hi : i < flow.steps.length),
      Step.record.heldTexts flow.steps[i] ⊆ Flow.record.heldTexts flow := fun i hi => hsteps _ (List.getElem_mem hi)
  have hquotable : ∀ i (hi : i < flow.steps.length), Rules.Quotable (Flow.record.heldTexts flow) flow.steps[i] :=
    fun i hi => Rules.quotable_of_heldTexts (hstep i hi)
  have hids : ∀ step ∈ flow.steps, step.id ∈ Flow.record.heldTexts flow := fun step hmem =>
    (Rules.quotable_of_heldTexts (hsteps step hmem)).id
  cases rule with
  | metadata => exact Rules.breaksFrom_metadata hmetadata
  | triggers =>
    exact forall_mem_flatten_mapIdx.2 fun i hi =>
      Rules.breaksFrom_trigger (Path.oneLine_index.2 (by decide)) (htriggers _ (List.getElem_mem hi))
  | steps =>
    exact forall_mem_flatten_mapIdx.2 fun i hi => Rules.breaksFrom_stepKind _ (Rules.oneLine_stepField (by decide))
  | transports =>
    refine forall_mem_flatten_mapIdx.2 fun i hi => forall_mem_flatten_map.2 fun t ht => ?_
    have hheld : Transport.schema.heldTexts t ⊆ Flow.record.heldTexts flow :=
      List.Subset.trans (heldTexts_transport ht) (hstep i hi)
    exact Rules.breaksFrom_transport (Rules.oneLine_stepField (by decide)) hheld
  | policies =>
    exact forall_mem_flatten_mapIdx.2 fun i hi => forall_mem_flatten_mapIdx.2 fun j hj =>
      Rules.breaksFrom_policy _ (Path.oneLine_index.2 (Rules.oneLine_stepField (by decide)))
  | duplicateStepIds => exact forall_mem_flatten_mapIdx.2 fun i hi => Rules.breaksFrom_stepId (hstep i hi)
  | stepReferences => exact forall_mem_flatten_mapIdx.2 fun i hi => Rules.breaksFrom_references (hquotable i hi)
  | selfReference =>
    simp only [check, Rules.selfReference]
    split
    · exact List.forall_mem_nil _
    · exact forall_mem_flatten_mapIdx.2 fun i hi => Rules.breaksFrom_selfReferences (hquotable i hi)
  | cycles =>
    simp only [check, Rules.cycles]
    split
    · exact List.forall_mem_nil _
    · exact List.forall_mem_map.2 fun members _ => Rules.breaksFrom_cycle hids
  | unreachableSteps =>
    simp only [check, Rules.unreachableSteps]
    split
    · rename_i first rest _ hfirst
      exact Rules.breaksFrom_unreachable (hids first (by rw [hfirst]; exact List.mem_cons_self)) hids
    · exact List.forall_mem_nil _
  | observability => exact forall_mem_flatten_map.2 fun o _ => Rules.breaksFrom_observability o

/-- A line feed in a finding of the rules is one of a text of the flow. -/
theorem breaksFrom_of_run : ∀ finding ∈ run flow settings, finding.BreaksFrom (Flow.record.heldTexts flow) := by
  intro finding hfinding
  obtain ⟨rule, -, hmem⟩ := List.mem_flatMap.1 (List.mem_of_mem_filter hfinding)
  exact rule.breaksFrom_of_check finding hmem

end Rule

end FlowCheck
