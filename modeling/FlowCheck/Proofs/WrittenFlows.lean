import FlowCheck.Proofs.FlowSchema
import FlowCheck.Proofs.Limits
import FlowCheck.Proofs.Structure.Acceptance
import FlowCheck.Validation

/-!
# Written flows

A flow that was read is written as a tree that reads back as the same flow, within the same limits.

* The limits see of an accepted document its depth and, apart from that, only the flow (`checkTree_eq_ok_iff`).
* An accepted document is at least five levels deep (`five_le_depth_of_check`), which is as deep as defaults that are
  written out can become, so the written tree is no deeper than the document (`depth_written_le`).
* The written tree has mappings for its sections and texts for its choices, so it is accepted (`check_written`).
-/

namespace FlowCheck

open Structure

variable {flow : Flow} {tree : Value} {limits : InputLimits}

/-! ### Limits of accepted documents -/

theorem listLength_of_lookup {fields : List (String × Value)} {name : String} {items : List Value}
    (h : fields.lookup name = some (.list items)) :
    InputLimits.listLength (.object fields) name = items.length := by
  simp only [InputLimits.listLength, Value.get?, h, Option.bind_some, Value.asList?, Option.getD_some]

theorem listLength_of_lookup_none {fields : List (String × Value)} {name : String}
    (h : fields.lookup name = none) : InputLimits.listLength (.object fields) name = 0 := by
  simp only [InputLimits.listLength, Value.get?, h, Option.bind_none, Option.getD_none, List.length_nil]

theorem listLength_policies {item : Value} {step : Step} (hmapping : item.IsMapping)
    (h : Step.record.decode .direct item = .ok step) :
    InputLimits.listLength item "policies" = step.policies.length := by
  obtain ⟨fields, rfl⟩ := hmapping
  obtain ⟨-, -, -, -, -, hpolicies, -⟩ := Record.decode_object_eq_ok.1 h
  simp only [Field.name] at hpolicies
  rcases Field.read_defaulted_eq_ok.1 hpolicies with ⟨v, hv, hdecode⟩ | ⟨hnone, hnil⟩
  · obtain ⟨items, rfl, hitems⟩ := Schema.decode_list_eq_ok.1 hdecode
    rw [listLength_of_lookup hv, hitems.length_eq]
  · rw [listLength_of_lookup_none hnone, hnil, List.length_nil]

/-- The limits see of an accepted document its depth and, apart from that, only the flow. -/
theorem checkTree_eq_ok_iff (h : check tree = .ok flow) :
    limits.checkTree tree = .ok () ↔
      tree.depth ≤ limits.maxNestingDepth.toNat ∧ flow.steps.length ≤ limits.maxSteps.toNat ∧
      (∀ step ∈ flow.steps, step.policies.length ≤ limits.maxPoliciesPerStep.toNat) ∧
      flow.triggers.length ≤ limits.maxTriggers.toNat := by
  cases tree with
  | object fields =>
    obtain ⟨hparts, hdecode, -⟩ := check_object_eq_ok.1 h
    have hsections := sections_of_parts hparts
    obtain ⟨-, htriggers, ⟨items, hsteps, hread⟩, -⟩ := decode_eq_ok_iff_assembled.1 hdecode
    have htriggers : InputLimits.listLength (.object fields) "triggers" = flow.triggers.length := by
      rcases htriggers with ⟨items, hitems, hread⟩ | ⟨hnone, hnil⟩
      · rw [listLength_of_lookup hitems, hread.length_eq]
      · rw [listLength_of_lookup_none hnone, hnil, List.length_nil]
    have hpolicies : (∀ item ∈ items, InputLimits.listLength item "policies" ≤ limits.maxPoliciesPerStep.toNat) ↔
        ∀ step ∈ flow.steps, step.policies.length ≤ limits.maxPoliciesPerStep.toNat := by
      constructor
      · intro hle step hstep
        obtain ⟨item, hitem, hdecode⟩ := exists_of_mem_right hread hstep
        exact listLength_policies (hsections.steps items hsteps item hitem) hdecode ▸ hle item hitem
      · intro hle item hitem
        obtain ⟨step, hstep, hdecode⟩ := exists_of_mem_left hread hitem
        exact listLength_policies (hsections.steps items hsteps item hitem) hdecode ▸ hle step hstep
    have hlisted : (((Value.object fields).get? "steps").bind Value.asList?).getD [] = items := by
      simp only [Value.get?, hsteps, Option.bind_some, Value.asList?, Option.getD_some]
    rw [InputLimits.checkTree_eq_ok, htriggers, listLength_of_lookup hsteps, hread.length_eq, hlisted, hpolicies]
  | _ => cases h

/-! ### How deep accepted documents are -/

theorem two_le_depth_of_tagged {v : Value} {k : StepKind} (h : StepKind.schema.decode .direct v = .ok k) :
    2 ≤ v.depth := by
  obtain ⟨tag, content, htag, -⟩ := Schema.decode_tagged_eq_ok.1 h
  have hdepth := (Value.depth_le_of_tagged htag).1
  have hpos := (Value.string tag).depth_pos
  omega

/-- The list of steps, a step, what it does, and the tag of that: an accepted document has at least five levels. -/
theorem five_le_depth_of_check (h : check tree = .ok flow) : 5 ≤ tree.depth := by
  cases tree with
  | object fields =>
    obtain ⟨hparts, hdecode, hne⟩ := check_object_eq_ok.1 h
    obtain ⟨-, -, ⟨items, hsteps, hread⟩, -⟩ := decode_eq_ok_iff_assembled.1 hdecode
    obtain ⟨step, hstep⟩ := List.exists_mem_of_ne_nil _ hne
    obtain ⟨item, hitem, hitemread⟩ := exists_of_mem_right hread hstep
    obtain ⟨entries, rfl⟩ := (sections_of_parts hparts).steps items hsteps item hitem
    obtain ⟨-, -, -, haction, -⟩ := Record.decode_object_eq_ok.1 hitemread
    obtain ⟨action, haction, hkind⟩ := Field.read_required_eq_ok.1 haction
    -- the document, the list, the step, its action and the tag are levels
    have hroot := Value.depth_le_of_lookup hsteps
    have hlist := Value.depth_le_depthItems hitem
    have hitem := Value.depth_le_of_lookup haction
    have htag := two_le_depth_of_tagged hkind
    simp only [Value.depth] at hroot hlist ⊢
    omega
  | _ => cases h

/-! ### The written tree -/

/-- The tree that a flow is written as, with its mappings in the order of their keys. -/
def Flow.written (flow : Flow) : Value :=
  (Value.object (Flow.record.encodeEntries flow)).sortKeys

/-- Before its mappings are sorted, the written tree is no deeper than a document that the flow was read from. -/
theorem depth_encodeEntries_le (h : check tree = .ok flow) :
    (Value.object (Flow.record.encodeEntries flow)).depth ≤ tree.depth := by
  have hfive := five_le_depth_of_check h
  cases tree with
  | object fields =>
    have hwritten := Record.depth_encode_le Flow.record (check_object_eq_ok.1 h).2.1
    rw [Flow.addedDepth_record] at hwritten
    omega
  | _ => cases h

theorem depth_written_le (h : check tree = .ok flow) : flow.written.depth ≤ tree.depth :=
  Nat.le_trans (Value.depth_sortKeys_le _) (depth_encodeEntries_le h)

/-- What is read from a sorted document reads back from the written tree. -/
theorem decode_written (hsorted : tree.Sorted) (h : Flow.record.decode .direct tree = .ok flow) :
    Flow.record.decode .direct flow.written = .ok flow :=
  Schema.decode_sortKeys_encode (.record Flow.record) Flow.lawful_record
    (Schema.readable_of_decode (.record Flow.record) Flow.lawful_record hsorted h)

private theorem written_eq_object : flow.written = .object (Value.orderedFields (Flow.record.encodeEntries flow)) :=
  Value.sortKeys_object _

private theorem isMapping_sortKeys (fields : List (String × Value)) : (Value.object fields).sortKeys.IsMapping :=
  ⟨_, Value.sortKeys_object fields⟩

theorem sections_written (flow : Flow) :
    SectionsAreMappings (Value.orderedFields (Flow.record.encodeEntries flow)) := by
  refine ⟨fun v hv => ?_, fun items hitems item hitem => ?_, fun v hv hne => ?_⟩
  · rw [Record.lookup_orderedFields Flow.lawful_record] at hv
    obtain rfl : (Value.object (Metadata.record.encodeEntries flow.metadata)).sortKeys = v := Option.some.inj hv
    exact isMapping_sortKeys _
  · rw [Record.lookup_orderedFields Flow.lawful_record] at hitems
    have hlist : (Value.list (flow.steps.map (Schema.record Step.record).encode)).sortKeys = .list items :=
      Option.some.inj hitems
    rw [Value.sortKeys_list, Value.list.injEq, List.map_map] at hlist
    subst hlist
    obtain ⟨step, -, rfl⟩ := List.mem_map.1 hitem
    exact isMapping_sortKeys _
  · rw [Record.lookup_orderedFields Flow.lawful_record] at hv
    obtain ⟨metadata, triggers, steps, observability⟩ := flow
    cases observability with
    | none => cases hv
    | some o =>
      obtain rfl : (Value.object (Observability.record.encodeEntries o)).sortKeys = v := Option.some.inj hv
      exact isMapping_sortKeys _

private theorem taggedFields_written {t : Trigger} (h : t.kind ≠ "http") :
    taggedFields "http" (Trigger.schema.encode t).sortKeys = [] := by
  unfold Trigger.schema
  simp only [Schema.encode, Value.sortKeys_object, taggedFields]
  rw [Variants.lookup_tagField Trigger.lawful_schema]
  refine if_neg ?_
  have hkind : t.kind ≠ "http" → (some t.kind == some "http") ≠ true := by simp
  refine fun he => hkind h ?_
  cases t <;> exact he

/-- The kind of a written authentication is a text. -/
private theorem authKind?_written (a : HttpAuth) :
    authKind? (Value.object (HttpAuth.record.encodeEntries a)).sortKeys =
      some (.string (AuthKind.choices.name a.kind)) := by
  have hlawful : HttpAuth.record.Lawful := by simp [HttpAuth.record]
  rw [Value.sortKeys_object]
  exact (Record.lookup_orderedFields hlawful a "type").trans rfl

private theorem lookup_auth_written (settings : HttpTrigger) :
    (Value.orderedFields (Trigger.variants.encodeEntries (.inl settings))).lookup "auth" =
      settings.auth.map fun a => (Value.object (HttpAuth.record.encodeEntries a)).sortKeys := by
  obtain ⟨-, -, hkeys⟩ := Variants.encodeEntries_eq_cons Trigger.variants Trigger.lawful_schema (.inl settings)
  rw [Value.lookup_orderedFields hkeys]
  obtain ⟨path, method, auth, rateLimit⟩ := settings
  cases auth with
  | none =>
    cases rateLimit <;> rfl
  | some a => rfl

private theorem not_hollowAuth_written (t : Trigger) : ¬HollowAuth (Trigger.schema.encode t).sortKeys := by
  rintro ⟨auth, name, hlookup, hkind⟩
  cases t with
  | http settings =>
    have hwritten : (Trigger.schema.encode (.http settings)).sortKeys =
      .object (Value.orderedFields (Trigger.variants.encodeEntries (.inl settings))) := Value.sortKeys_object _
    rcases taggedFields_eq_nil_or "http" (Trigger.schema.encode (.http settings)).sortKeys with
      hnil | ⟨fields, hobject, hfields, -⟩
    · rw [hnil] at hlookup
      cases hlookup
    · obtain rfl := Value.object.inj (hwritten.symm.trans hobject)
      rw [hfields, lookup_auth_written, Option.map_eq_some_iff] at hlookup
      obtain ⟨a, -, rfl⟩ := hlookup
      rw [authKind?_written] at hkind
      cases hkind
  | _ =>
    rw [taggedFields_written (by simp [Trigger.kind])] at hlookup
    cases hlookup

theorem not_hasHollowAuth_written (flow : Flow) :
    ¬HasHollowAuth (Value.orderedFields (Flow.record.encodeEntries flow)) := by
  rintro ⟨items, hitems, item, hitem, hhollow⟩
  rw [Record.lookup_orderedFields Flow.lawful_record] at hitems
  have hlist : (Value.list (flow.triggers.map Trigger.schema.encode)).sortKeys = .list items :=
    Option.some.inj hitems
  rw [Value.sortKeys_list, Value.list.injEq, List.map_map] at hlist
  subst hlist
  obtain ⟨t, -, rfl⟩ := List.mem_map.1 hitem
  exact not_hollowAuth_written t hhollow

/-- The tree that an accepted flow is written as is accepted as the same flow. -/
theorem check_written (hsorted : tree.Sorted) (h : check tree = .ok flow) : check flow.written = .ok flow := by
  cases tree with
  | object fields =>
    obtain ⟨-, hdecode, hsteps⟩ := check_object_eq_ok.1 h
    have hwritten := decode_written hsorted hdecode
    rw [written_eq_object] at hwritten ⊢
    have hparts := parts_eq_nil_of_assembled (decode_eq_ok_iff_assembled.1 hwritten) (sections_written flow)
      (not_hasHollowAuth_written flow)
    exact check_object_eq_ok.2 ⟨hparts, hwritten, hsteps⟩
  | _ => cases h

theorem flowOfTree_eq_ok :
    Reading.flowOfTree limits tree = .ok flow ↔ limits.checkTree tree = .ok () ∧ check tree = .ok flow := by
  simp only [Reading.flowOfTree]
  cases limits.checkTree tree with
  | error e => simp [bind, Except.bind]
  | ok u => cases check tree <;> simp [bind, Except.bind, Except.mapError]

/-- The written tree is within the limits that the document is within. -/
theorem checkTree_written (hsorted : tree.Sorted) (h : Reading.flowOfTree limits tree = .ok flow) :
    limits.checkTree flow.written = .ok () := by
  obtain ⟨hlimits, hcheck⟩ := flowOfTree_eq_ok.1 h
  obtain ⟨hdepth, hcounts⟩ := (checkTree_eq_ok_iff hcheck).1 hlimits
  have hwritten := check_written hsorted hcheck
  exact (checkTree_eq_ok_iff hwritten).2 ⟨Nat.le_trans (depth_written_le hcheck) hdepth, hcounts⟩

/-- The written tree reads back as the flow. -/
theorem read_written (hsorted : tree.Sorted) (h : Reading.flowOfTree limits tree = .ok flow) :
    Reading.flowOfTree limits flow.written = .ok flow :=
  flowOfTree_eq_ok.2 ⟨checkTree_written hsorted h, check_written hsorted (flowOfTree_eq_ok.1 h).2⟩

/-- Documents that are accepted as the same flow have the same result. -/
theorem validate_eq_validateFlow {rules : RuleSettings} (h : Reading.flowOfTree limits tree = .ok flow) :
    validate { rules, limits } tree = validateFlow { rules, limits } flow := by
  obtain ⟨hlimits, hcheck⟩ := flowOfTree_eq_ok.1 h
  simp only [validate, validateFlow, Outcome.ofTree, hlimits, hcheck]

/-- A flow that was read from a document within limits is written as a sorted tree within the same limits, which reads
back as the same flow and has the same result under every rule settings. -/
theorem flowOfTree_written (hsorted : tree.Sorted) (h : Reading.flowOfTree limits tree = .ok flow) :
    flow.written.Sorted ∧ limits.checkTree flow.written = .ok () ∧
      Reading.flowOfTree limits flow.written = .ok flow ∧
      ∀ rules, validate { rules, limits } flow.written = validate { rules, limits } tree := by
  have hread := read_written hsorted h
  refine ⟨Value.sorted_sortKeys _, checkTree_written hsorted h, hread, fun rules => ?_⟩
  rw [validate_eq_validateFlow hread, validate_eq_validateFlow h]

/-- What the terse document is read as. -/
def terseFlow : Flow where
  metadata := ⟨"f", "1.0.0", none, none, [], [⟨"o", "o@example.org", none, none⟩], none, none⟩
  triggers := [.http ⟨"/", .get, some ⟨.apiKey, some "k", none⟩, none⟩]
  steps := [⟨"a", "A", none, .branch ⟨[⟨"true", "b"⟩], none⟩, none, [], [], none⟩,
    ⟨"b", "B", none, .circuitBreaker ⟨3, 1000, none⟩, none, [], [], none⟩]
  observability := none

theorem flowOfTree_written_terse :
    (Value.object terse).Sorted ∧ Reading.flowOfTree {} (.object terse) = .ok terseFlow ∧
      terseFlow.written.Sorted ∧ ({} : InputLimits).checkTree terseFlow.written = .ok () ∧
      Reading.flowOfTree {} terseFlow.written = .ok terseFlow ∧
      ∀ rules, validate { rules, limits := {} } terseFlow.written = validate { rules, limits := {} } (.object terse) :=
  have hsorted : (Value.object terse).Sorted := by
    simp only [terse, Value.Sorted, Value.SortedFields, Value.SortedItems]
    decide
  ⟨hsorted, rfl, flowOfTree_written hsorted rfl⟩

end FlowCheck
