import FlowCheck.Proofs.Grammar.Conformance
import FlowCheck.Proofs.Structure.Acceptance

/-!
# Acceptance is conformance

The check of the structure of a document reads it piece by piece and in part from copies.  On trees without odd forms
this comes to the grammar of flow documents: `check_iff_conforms`.  A document that conforms writes its sections as
mappings and the kind of an authentication as a name (`sections_of_conforms`), which is what the check asks of a
document beyond being read as a whole.
-/

namespace FlowCheck

theorem Conforms.isMapping {fields : FieldShapes} {v : Value} (h : Conforms (.mapping fields) v) : v.IsMapping := by
  cases h with
  | mapping => exact ⟨_, rfl⟩

theorem Conforms.of_mem {element : Shape} {items : List Value} (h : Conforms (.list element) (.list items))
    {item : Value} (hitem : item ∈ items) : Conforms element item := by
  cases h with
  | list h => exact h item hitem

namespace Structure

/-- An authentication that conforms gives its kind by name. -/
theorem authKind?_of_conforms {auth : Value} (h : Conforms (.mapping Grammar.httpAuth) auth)
    (entries : List (String × Value)) : authKind? auth ≠ some (.object entries) := by
  obtain ⟨fields, rfl⟩ := h.isMapping
  obtain ⟨-, hkind⟩ := conforms_mapping.1 h _ List.mem_cons_self
  intro hv
  cases hkind _ hv nofun

theorem not_hollowAuth_of_conforms {v : Value} (h : Conforms (.family Grammar.triggers) v) : ¬HollowAuth v := by
  rintro ⟨auth, name, hauth, hkind⟩
  rcases taggedFields_eq_nil_or "http" v with hnil | ⟨entries, rfl, hentries, htagged⟩
  · rw [hnil] at hauth
    cases hauth
  · rw [hentries] at hauth
    cases h with
    | family htag hmember h =>
      simp only [Value.tagged?, htag, Option.map_some, Option.some.injEq, Prod.mk.injEq, Value.string.injEq] at htagged
      obtain ⟨rfl, -⟩ := htagged
      obtain rfl := Option.some.inj hmember
      obtain ⟨-, hconforms⟩ := conforms_mapping.1 h ("auth", .optional, .mapping Grammar.httpAuth) (by simp)
      refine authKind?_of_conforms (hconforms auth hauth ?_) _ hkind
      rintro ⟨rfl, -⟩
      cases hkind

/-- The sections of a document that conforms, one by one. -/
theorem conforms_sections {fields : List (String × Value)} (h : Conforms Grammar.flow (.object fields)) :
    (∀ v, fields.lookup "metadata" = some v → Conforms (.mapping Grammar.metadata) v) ∧
    (∀ v, fields.lookup "triggers" = some v → Conforms (.list (.family Grammar.triggers)) v) ∧
    (∀ v, fields.lookup "steps" = some v → Conforms (.list (.mapping Grammar.step)) v) ∧
    ∀ v, fields.lookup "observability" = some v → v ≠ .null → Conforms (.mapping Grammar.observability) v := by
  simp only [Grammar.flow, conforms_mapping, List.forall_mem_cons, Admits] at h
  obtain ⟨⟨-, hmetadata⟩, ⟨-, htriggers⟩, ⟨-, hsteps⟩, ⟨-, hobservability⟩, -⟩ := h
  exact ⟨fun v hv => hmetadata v hv nofun, fun v hv => htriggers v hv nofun, fun v hv => hsteps v hv nofun,
    fun v hv hne => hobservability v hv fun hnull => hne hnull.1⟩

theorem sections_of_conforms {fields : List (String × Value)} (h : Conforms Grammar.flow (.object fields)) :
    SectionsAreMappings fields ∧ ¬HasHollowAuth fields := by
  obtain ⟨hmetadata, htriggers, hsteps, hobservability⟩ := conforms_sections h
  refine ⟨⟨fun v hv => (hmetadata v hv).isMapping, fun items hitems item hitem => ?_,
    fun v hv hne => (hobservability v hv hne).isMapping⟩, ?_⟩
  · exact ((hsteps _ hitems).of_mem hitem).isMapping
  · rintro ⟨items, hitems, item, hitem, hhollow⟩
    exact not_hollowAuth_of_conforms ((htriggers _ hitems).of_mem hitem) hhollow

/-- Of the trees without odd forms, those are accepted that conform to the grammar and have steps. -/
theorem check_iff_conforms {tree : Value} (hplain : ¬Odd Grammar.flow tree) :
    (∃ flow, check tree = .ok flow) ↔
      (∃ fields metadata items, tree = .object fields ∧ fields.lookup "metadata" = some (.object metadata) ∧
        fields.lookup "steps" = some (.list items) ∧ items ≠ []) ∧
      Conforms Grammar.flow tree := by
  constructor
  · rintro ⟨flow, h⟩
    obtain ⟨fields, rfl⟩ := exists_object_of_check h
    obtain ⟨hdecode, hsteps, hsections, -⟩ := check_object_eq_ok_iff_sections.1 h
    obtain ⟨⟨v, hmetadata, -⟩, -, ⟨items, hitems, hread⟩, -⟩ := decode_eq_ok_iff_assembled.1 hdecode
    obtain ⟨metadata, rfl⟩ := hsections.metadata v hmetadata
    refine ⟨⟨fields, metadata, items, rfl, hmetadata, hitems, ?_⟩,
      Record.conforms_of_decode Flow.record Flow.lawful_record hplain hdecode⟩
    rintro rfl
    exact hsteps (List.forall₂_nil_left_iff.1 hread)
  · rintro ⟨⟨fields, metadata, items, rfl, -, hitems, hne⟩, h⟩
    obtain ⟨flow, hdecode⟩ : ∃ flow, Flow.record.decode .direct (.object fields) = .ok flow :=
      Record.exists_decode_of_conforms Flow.record Flow.lawful_record h
    obtain ⟨-, -, ⟨others, hothers, hread⟩, -⟩ := decode_eq_ok_iff_assembled.1 hdecode
    obtain rfl : items = others := Value.list.inj (Option.some.inj (hitems.symm.trans hothers))
    have hsteps : flow.steps ≠ [] := by
      intro hnil
      rw [hnil] at hread
      exact hne (List.forall₂_nil_right_iff.1 hread)
    obtain ⟨hsections, hhollow⟩ := sections_of_conforms h
    exact ⟨flow, check_object_eq_ok_iff_sections.2 ⟨hdecode, hsteps, hsections, hhollow⟩⟩

/-- A document with an alias for a tag, an unknown field, null for an optional field and a number of failures. -/
def breaker (failures : WideInt) : Value :=
  .object [("metadata", .object [("description", .null), ("name", .string "f"), ("version", .string "1.0.0")]),
    ("note", .list []),
    ("steps", .list [.object [("id", .string "a"), ("name", .string "A"),
      ("step", .object [("failureThreshold", .int failures), ("recoveryTimeout", .int (.ofNat 30000 (by decide))),
        ("type", .string "circuit-breaker")])]])]

private theorem not_odd_breaker (failures : WideInt) : ¬Odd Grammar.flow (breaker failures) := by
  simp [breaker, Grammar.flow, Grammar.metadata, Grammar.step, Grammar.stepKinds, tagField, MemberShapes.find?,
    odd_mapping_cons, not_odd_mapping_nil, odd_list, odd_family, not_odd_string, not_odd_int, not_odd_null,
    List.lookup_cons]

theorem check_iff_conforms_of_breaker :
    ¬Odd Grammar.flow (breaker (.ofNat 4294967295 (by decide))) ∧
      Conforms Grammar.flow (breaker (.ofNat 4294967295 (by decide))) ∧
      ¬Conforms Grammar.flow (breaker (.ofNat 4294967296 (by decide))) := by
  refine ⟨not_odd_breaker _, ((check_iff_conforms (not_odd_breaker _)).1 ⟨_, rfl⟩).2, fun h => ?_⟩
  obtain ⟨flow, hcheck⟩ := (check_iff_conforms (not_odd_breaker _)).2
    ⟨⟨_, _, _, rfl, rfl, rfl, List.cons_ne_nil _ _⟩, h⟩
  cases hcheck

end Structure

end FlowCheck
