import FlowCheck.Proofs.Structure.Located
import FlowCheck.Proofs.Structure.Silence

/-!
# Which documents are accepted

When the parts of a document are silent, the document can be read as a whole, and the flow is put together from what
the parts are read as (`exists_assembled_of_parts`).  So the check never ends with a mismatch of the whole document: a
finding without a path is about a document that is no mapping.

The other way round, the parts of a mapping that can be read as a whole are silent if its sections are mappings and no
authentication is hollow (`parts_eq_nil_of_assembled`).  Together: `check_object_eq_ok_iff_sections`.
-/

namespace FlowCheck.Structure

variable {fields : List (String × Value)} {flow : Flow}

/-! ### Putting a flow together -/

/-- The flow is put together from what the parts of a mapping are read as, each on its own. -/
structure Assembled (fields : List (String × Value)) (flow : Flow) : Prop where
  metadata : ∃ v, fields.lookup "metadata" = some v ∧ Metadata.record.decode .direct v = .ok flow.metadata
  triggers : (∃ items, fields.lookup "triggers" = some (.list items) ∧
      List.Forall₂ (fun item trigger => Trigger.schema.decode .direct item = .ok trigger) items flow.triggers) ∨
    fields.lookup "triggers" = none ∧ flow.triggers = []
  steps : ∃ items, fields.lookup "steps" = some (.list items) ∧
    List.Forall₂ (fun item step => Step.record.decode .direct item = .ok step) items flow.steps
  observability : (∃ v o, fields.lookup "observability" = some v ∧ v ≠ .null ∧
      Observability.record.decode .direct v = .ok o ∧ flow.observability = some o) ∨
    (fields.lookup "observability" = none ∨ fields.lookup "observability" = some .null) ∧ flow.observability = none

/-- Reading a mapping as a whole puts the flow together from its parts. -/
theorem decode_eq_ok_iff_assembled :
    Flow.record.decode .direct (.object fields) = .ok flow ↔ Assembled fields flow := by
  rw [Record.decode_object_eq_ok]
  constructor
  · rintro ⟨hmetadata, htriggers, hsteps, hobservability, -⟩
    refine ⟨Field.read_required_eq_ok.1 hmetadata, ?_, ?_, ?_⟩
    · rcases Field.read_defaulted_eq_ok.1 htriggers with ⟨v, hv, hdecode⟩ | ⟨hnone, hnil⟩
      · obtain ⟨items, rfl, hitems⟩ := Schema.decode_list_eq_ok.1 hdecode
        exact Or.inl ⟨items, hv, hitems⟩
      · exact Or.inr ⟨hnone, hnil⟩
    · obtain ⟨v, hv, hdecode⟩ := Field.read_required_eq_ok.1 hsteps
      obtain ⟨items, rfl, hitems⟩ := Schema.decode_list_eq_ok.1 hdecode
      exact ⟨items, hv, hitems⟩
    · cases ho : flow.observability with
      | none =>
        rw [ho] at hobservability
        exact Or.inr ⟨Field.read_optional_eq_ok_none.1 hobservability, rfl⟩
      | some o =>
        rw [ho] at hobservability
        obtain ⟨v, hv, hne, hdecode⟩ := Field.read_optional_eq_ok_some.1 hobservability
        exact Or.inl ⟨v, o, hv, hne, hdecode, rfl⟩
  · rintro ⟨hmetadata, htriggers, ⟨items, hsteps, hitems⟩, hobservability⟩
    refine ⟨Field.read_required_eq_ok.2 hmetadata, Field.read_defaulted_eq_ok.2 ?_,
      Field.read_required_eq_ok.2 ⟨_, hsteps, Schema.decode_list_eq_ok.2 ⟨items, rfl, hitems⟩⟩, ?_, rfl⟩
    · rcases htriggers with ⟨items, hv, hitems⟩ | habsent
      · exact Or.inl ⟨_, hv, Schema.decode_list_eq_ok.2 ⟨items, rfl, hitems⟩⟩
      · exact Or.inr habsent
    · rcases hobservability with ⟨v, o, hv, hne, hdecode, ho⟩ | ⟨habsent, ho⟩
      · rw [ho]
        exact Field.read_optional_eq_ok_some.2 ⟨v, hv, hne, hdecode⟩
      · rw [ho]
        exact Field.read_optional_eq_ok_none.2 habsent

/-! ### The parts of a document -/

theorem parts_eq_nil_iff :
    parts fields = [] ↔
      (∃ v, fields.lookup "metadata" = some v ∧ v.IsMapping ∧ ∃ m, Metadata.record.decode .direct v = .ok m) ∧
      (∀ v, fields.lookup "triggers" = some v → ∃ items, v = .list items ∧
        ∀ item ∈ items, (∃ t, Trigger.schema.decode .direct item = .ok t) ∧ ¬HollowAuth item) ∧
      (∃ v, fields.lookup "steps" = some v ∧ ∃ items, v = .list items ∧
        ∀ item ∈ items, item.IsMapping ∧ ∃ s, Step.record.decode .direct item = .ok s) ∧
      (∀ v, fields.lookup "observability" = some v → v ≠ .null →
        v.IsMapping ∧ ∃ o, Observability.record.decode .direct v = .ok o) := by
  have htrigger : ∀ path v, trigger path v = [] ↔
      (∃ t, Trigger.schema.decode .direct v = .ok t) ∧ ¬HollowAuth v := fun _ _ => trigger_eq_nil
  have hstep : ∀ path v, step path v = [] ↔ v.IsMapping ∧ ∃ s, Step.record.decode .direct v = .ok s :=
    fun _ _ => step_eq_nil
  simp only [parts, List.append_eq_nil_iff, demanded_eq_nil, present_eq_nil, given_eq_nil, metadata_eq_nil,
    observability_eq_nil, elements_eq_nil htrigger, elements_eq_nil hstep, and_assoc]

/-- A mapping whose parts are silent can be read as a whole. -/
theorem exists_assembled_of_parts (h : parts fields = []) : ∃ flow, Assembled fields flow := by
  obtain ⟨⟨v, hv, -, m, hm⟩, htriggers, ⟨_, hsteps, items, rfl, hitems⟩, hobservability⟩ := parts_eq_nil_iff.1 h
  obtain ⟨steps, hread⟩ := exists_forall₂ fun item hitem => (hitems item hitem).2
  have htriggers' : ∃ triggers, (∃ items, fields.lookup "triggers" = some (.list items) ∧
      List.Forall₂ (fun item trigger => Trigger.schema.decode .direct item = .ok trigger) items triggers) ∨
      fields.lookup "triggers" = none ∧ triggers = [] := by
    cases hlookup : fields.lookup "triggers" with
    | none => exact ⟨[], Or.inr ⟨rfl, rfl⟩⟩
    | some w =>
      obtain ⟨items, rfl, hitems⟩ := htriggers w hlookup
      obtain ⟨triggers, hread⟩ := exists_forall₂ fun item hitem => (hitems item hitem).1
      exact ⟨triggers, Or.inl ⟨items, rfl, hread⟩⟩
  have hobservability' : ∃ observability, (∃ v o, fields.lookup "observability" = some v ∧ v ≠ .null ∧
      Observability.record.decode .direct v = .ok o ∧ observability = some o) ∨
      (fields.lookup "observability" = none ∨ fields.lookup "observability" = some .null) ∧ observability = none := by
    cases hlookup : fields.lookup "observability" with
    | none => exact ⟨none, Or.inr ⟨Or.inl rfl, rfl⟩⟩
    | some w =>
      by_cases hne : w = .null
      · exact ⟨none, Or.inr ⟨Or.inr (congrArg some hne), rfl⟩⟩
      · obtain ⟨-, o, ho⟩ := hobservability w hlookup hne
        exact ⟨some o, Or.inl ⟨w, o, rfl, hne, ho, rfl⟩⟩
  obtain ⟨triggers, htriggers⟩ := htriggers'
  obtain ⟨observability, hobservability⟩ := hobservability'
  exact ⟨⟨m, triggers, steps, observability⟩, ⟨v, hv, hm⟩, htriggers, ⟨items, hsteps, hread⟩, hobservability⟩

/-! ### The sections of a document -/

/-- The sections of a document that are structures are written as mappings. -/
structure SectionsAreMappings (fields : List (String × Value)) : Prop where
  metadata : ∀ v, fields.lookup "metadata" = some v → v.IsMapping
  steps : ∀ items, fields.lookup "steps" = some (.list items) → ∀ item ∈ items, item.IsMapping
  observability : ∀ v, fields.lookup "observability" = some v → v ≠ .null → v.IsMapping

/-- Some trigger has a hollow authentication. -/
def HasHollowAuth (fields : List (String × Value)) : Prop :=
  ∃ items, fields.lookup "triggers" = some (.list items) ∧ ∃ item ∈ items, HollowAuth item

theorem sections_of_parts (h : parts fields = []) : SectionsAreMappings fields := by
  obtain ⟨⟨v, hv, hmapping, -⟩, -, ⟨_, hsteps, items, rfl, hitems⟩, hobservability⟩ := parts_eq_nil_iff.1 h
  refine ⟨fun w hw => ?_, fun others hothers item hitem => ?_, fun w hw hne => (hobservability w hw hne).1⟩
  · obtain rfl : v = w := Option.mem_unique hv hw
    exact hmapping
  · obtain rfl : items = others := Value.list.inj (Option.some.inj (hsteps.symm.trans hothers))
    exact (hitems item hitem).1

theorem not_hasHollowAuth_of_parts (h : parts fields = []) : ¬HasHollowAuth fields := by
  rintro ⟨items, hlookup, item, hitem, hhollow⟩
  obtain ⟨others, hothers, hsound⟩ := (parts_eq_nil_iff.1 h).2.1 _ hlookup
  obtain rfl : items = others := Value.list.inj hothers
  exact (hsound item hitem).2 hhollow

/-- The parts of a document that can be read as a whole are silent if its sections are mappings and no authentication
is hollow. -/
theorem parts_eq_nil_of_assembled (ha : Assembled fields flow) (hs : SectionsAreMappings fields)
    (hh : ¬HasHollowAuth fields) : parts fields = [] := by
  refine parts_eq_nil_iff.2 ⟨?_, ?_, ?_, ?_⟩
  · obtain ⟨v, hv, hm⟩ := ha.metadata
    exact ⟨v, hv, hs.metadata v hv, flow.metadata, hm⟩
  · intro v hv
    rcases ha.triggers with ⟨items, hitems, hread⟩ | ⟨hnone, -⟩
    · obtain rfl : v = .list items := Option.mem_unique hv hitems
      refine ⟨items, rfl, fun item hitem => ⟨?_, fun hhollow => hh ⟨items, hitems, item, hitem, hhollow⟩⟩⟩
      obtain ⟨t, -, ht⟩ := exists_of_mem_left hread hitem
      exact ⟨t, ht⟩
    · exact nomatch hv.symm.trans hnone
  · obtain ⟨items, hitems, hread⟩ := ha.steps
    refine ⟨_, hitems, items, rfl, fun item hitem => ⟨hs.steps items hitems item hitem, ?_⟩⟩
    obtain ⟨step, -, hstep⟩ := exists_of_mem_left hread hitem
    exact ⟨step, hstep⟩
  · intro v hv hne
    refine ⟨hs.observability v hv hne, ?_⟩
    rcases ha.observability with ⟨w, o, hw, -, ho, -⟩ | ⟨hnone | hnull, -⟩
    · obtain rfl : v = w := Option.mem_unique hv hw
      exact ⟨o, ho⟩
    · exact nomatch hv.symm.trans hnone
    · exact absurd (Option.some.inj (hv.symm.trans hnull)) hne

/-! ### The check of a document -/

theorem shape_isEmpty_iff : (shape flow).isEmpty = true ↔ flow.steps ≠ [] := by
  unfold shape
  cases flow.steps <;> simp

theorem check_object_eq_ok :
    check (.object fields) = .ok flow ↔
      parts fields = [] ∧ Flow.record.decode .direct (.object fields) = .ok flow ∧ flow.steps ≠ [] := by
  simp only [check]
  cases hparts : parts fields with
  | cons finding findings => simp
  | nil =>
    cases Flow.record.decode .direct (.object fields) with
    | error mismatch => simp
    | ok other =>
      simp only [List.isEmpty_nil, Bool.not_true, Bool.false_eq_true, if_false, true_and, Except.ok.injEq]
      split
      · rename_i hshape
        rw [shape_isEmpty_iff] at hshape
        constructor
        · intro h
          cases h
          exact ⟨rfl, hshape⟩
        · rintro ⟨rfl, -⟩
          rfl
      · rename_i hshape
        rw [shape_isEmpty_iff] at hshape
        constructor
        · intro h
          cases h
        · rintro ⟨rfl, hsteps⟩
          exact absurd hsteps hshape

theorem exists_object_of_check {tree : Value} (h : check tree = .ok flow) : ∃ fields, tree = .object fields := by
  cases tree with
  | object fields => exact ⟨fields, rfl⟩
  | _ => cases h

theorem decode_of_check {tree : Value} (h : check tree = .ok flow) : Flow.record.decode .direct tree = .ok flow := by
  obtain ⟨fields, rfl⟩ := exists_object_of_check h
  exact (check_object_eq_ok.1 h).2.1

/-- What the check asks of a mapping that can be read as a whole. -/
theorem check_object_eq_ok_iff_sections :
    check (.object fields) = .ok flow ↔
      Flow.record.decode .direct (.object fields) = .ok flow ∧ flow.steps ≠ [] ∧
        SectionsAreMappings fields ∧ ¬HasHollowAuth fields := by
  rw [check_object_eq_ok]
  constructor
  · rintro ⟨hparts, hdecode, hsteps⟩
    exact ⟨hdecode, hsteps, sections_of_parts hparts, not_hasHollowAuth_of_parts hparts⟩
  · rintro ⟨hdecode, hsteps, hsections, hhollow⟩
    exact ⟨parts_eq_nil_of_assembled (decode_eq_ok_iff_assembled.1 hdecode) hsections hhollow, hdecode, hsteps⟩

/-- The check accepts the documents that can be read as a whole and have steps, if their sections are mappings and no
authentication is hollow; the flow is the one that is read. -/
theorem check_eq_ok_iff (tree : Value) (flow : Flow) :
    check tree = .ok flow ↔
      Flow.record.decode .direct tree = .ok flow ∧ flow.steps ≠ [] ∧
        ∃ fields, tree = .object fields ∧ SectionsAreMappings fields ∧ ¬HasHollowAuth fields := by
  constructor
  · intro h
    obtain ⟨fields, rfl⟩ := exists_object_of_check h
    obtain ⟨hdecode, hsteps, hsound⟩ := check_object_eq_ok_iff_sections.1 h
    exact ⟨hdecode, hsteps, fields, rfl, hsound⟩
  · rintro ⟨hdecode, hsteps, fields, rfl, hsound⟩
    exact check_object_eq_ok_iff_sections.2 ⟨hdecode, hsteps, hsound⟩

theorem steps_ne_nil_of_check {tree : Value} (h : check tree = .ok flow) : flow.steps ≠ [] := by
  obtain ⟨fields, rfl⟩ := exists_object_of_check h
  exact (check_object_eq_ok.1 h).2.2

/-- A document with a trigger for requests whose authentication gives the name of its kind with an empty mapping. -/
def hollow : List (String × Value) :=
  [("metadata", .object [("name", .string "f"), ("version", .string "1.0.0")]),
    ("steps", .list [.object [("id", .string "a"), ("name", .string "A"),
      ("step", .object [("expression", .string "x"), ("type", .string "map")])]]),
    ("triggers", .list [.object [("auth", .object [("type", .object [("basic", .object [])])]), ("path", .string "/"),
      ("type", .string "http")]])]

/-- What the document with the hollow authentication is read as. -/
def hollowFlow : Flow where
  metadata := ⟨"f", "1.0.0", none, none, [], [], none, none⟩
  triggers := [.http ⟨"/", .post, some ⟨.basic, none, none⟩, none⟩]
  steps := [⟨"a", "A", none, .map ⟨"x", none⟩, none, [], [], none⟩]
  observability := none

/-- Sections that are mappings are not enough for the check to accept what can be read. -/
theorem not_check_iff_sections :
    ¬∀ tree flow, check tree = .ok flow ↔
      Flow.record.decode .direct tree = .ok flow ∧ flow.steps ≠ [] ∧
        ∃ fields, tree = .object fields ∧ SectionsAreMappings fields := by
  intro h
  have hsections : SectionsAreMappings hollow := by
    refine ⟨fun v hv => ?_, fun items hitems item hitem => ?_, fun v hv => ?_⟩
    · cases hv
      exact ⟨_, rfl⟩
    · cases hitems
      rw [List.mem_singleton.1 hitem]
      exact ⟨_, rfl⟩
    · cases hv
  have haccepted := (h (.object hollow) hollowFlow).2 ⟨rfl, List.cons_ne_nil _ _, hollow, rfl, hsections⟩
  cases haccepted

/-- No finding on a mapping is about the document as a whole. -/
theorem located_of_check_object {findings : List Finding} (h : check (.object fields) = .error findings) :
    Located findings := by
  simp only [check] at h
  split at h
  · cases h
    exact located_parts fields
  · rename_i hparts
    -- the parts are silent, so the whole can be read, and there is no mismatch without a path
    have hnil : parts fields = [] := by simpa using hparts
    obtain ⟨flow, hflow⟩ := exists_assembled_of_parts hnil
    rw [decode_eq_ok_iff_assembled.2 hflow] at h
    split at h
    · rename_i hdecode
      cases hdecode
    · split at h
      · cases h
      · cases h
        exact (locatedAt_shape _).located

/-- A document that is not accepted has findings, and they block. -/
theorem exists_isBlocking_of_check {tree : Value} {findings : List Finding} (h : check tree = .error findings) :
    ∃ finding ∈ findings, finding.isBlocking = true := by
  cases tree with
  | object fields =>
    have hne : findings ≠ [] := by
      rintro rfl
      simp only [check] at h
      split at h
      · rename_i hparts
        cases hnil : parts fields with
        | nil => simp [hnil] at hparts
        | cons finding findings => simp [hnil] at h
      · split at h
        · cases h
        · split at h
          · cases h
          · rename_i hshape
            simp only [Except.error.injEq] at h
            simp [h] at hshape
    obtain ⟨finding, hmem⟩ := List.exists_mem_of_ne_nil _ hne
    exact ⟨finding, hmem, (located_of_check_object h).isBlocking hmem⟩
  | _ =>
    cases h
    exact ⟨_, List.mem_singleton_self _, rfl⟩

/-- When the parts of a mapping are silent, the whole is read and is put together from them; so a finding
without a path is only ever about a document that is no mapping. -/
theorem whole_is_read_when_parts_are_silent (tree : Value) :
    (∀ fields, tree = .object fields → parts fields = [] →
      ∃ flow, Flow.record.decode .direct tree = .ok flow ∧ Assembled fields flow) ∧
    ∀ findings, check tree = .error findings →
      ((∃ finding ∈ findings, finding.path = none) ↔ ∀ fields, tree ≠ .object fields) := by
  refine ⟨?_, fun findings h => ?_⟩
  · rintro fields rfl hparts
    obtain ⟨flow, hflow⟩ := exists_assembled_of_parts hparts
    exact ⟨flow, decode_eq_ok_iff_assembled.2 hflow, hflow⟩
  · cases tree with
    | object fields =>
      constructor
      · rintro ⟨finding, hmem, hpath⟩
        exact absurd hpath ((located_of_check_object h).path_ne_none hmem)
      · exact fun hne => absurd rfl (hne fields)
    | _ =>
      cases h
      exact ⟨fun _ _ he => (nomatch he), fun _ => ⟨_, List.mem_singleton_self _, rfl⟩⟩

/-- A document with structures as lists, a choice as a mapping, an alias for a tag, an unknown field and absent
defaults. -/
def terse : List (String × Value) :=
  [("metadata", .object [("name", .string "f"), ("owners", .list [.list [.string "o", .string "o@example.org"]]),
      ("version", .string "1.0.0")]),
    ("note", .bool true),
    ("observability", .null),
    ("steps", .list [
      .object [("id", .string "a"), ("name", .string "A"),
        ("step", .object [("conditions", .list [.list [.string "true", .string "b"]]), ("type", .string "branch")])],
      .object [("id", .string "b"), ("name", .string "B"),
        ("step", .list [.string "circuit-breaker", .int (.ofNat 3 (by decide)), .int (.ofNat 1000 (by decide))])]]),
    ("triggers", .list [.object [("auth", .list [.string "api-key", .string "k"]), ("method", .object [("GET", .null)]),
      ("path", .string "/"), ("type", .string "http")]])]

theorem terse_is_read_when_parts_are_silent :
    parts terse = [] ∧ (∃ flow, Flow.record.decode .direct (.object terse) = .ok flow ∧ Assembled terse flow) ∧
      check .null = .error [.schemaRoot "flow document must be a mapping, found null"] ∧
      ∀ fields, Value.null ≠ .object fields :=
  ⟨by decide, (whole_is_read_when_parts_are_silent (.object terse)).1 terse rfl (by decide), rfl,
    ((whole_is_read_when_parts_are_silent .null).2 _ rfl).1 ⟨_, List.mem_singleton_self _, rfl⟩⟩

end FlowCheck.Structure
