import FlowCheck.Proofs.Entries
import FlowCheck.Proofs.Schema.Copies
import FlowCheck.Structure.Basic

/-!
# When the check of a part is silent

A part is checked piece by piece and then as a whole, but the pieces say nothing that reading the whole would not say:

* metadata, a step and the observability are silent exactly if they are mappings that can be read (`metadata_eq_nil`,
  `step_eq_nil`, `observability_eq_nil`);
* a trigger is silent exactly if it can be read and its authentication is not hollow (`trigger_eq_nil`).  The
  trigger is read from a copy, the authentication also from the document itself, and only a copy may give the
  name of a choice with an empty mapping.
-/

namespace FlowCheck

/-- The tree is a mapping. -/
def Value.IsMapping (v : Value) : Prop :=
  ∃ fields, v = .object fields

theorem Value.isNull_iff {v : Value} : v.isNull = true ↔ v = .null := by
  cases v <;> simp [Value.isNull]

namespace Structure

variable {α : Type}

/-! ### The combinators -/

theorem conformance_eq_nil {schema : Schema α} {path : Path} {v : Value} :
    conformance schema path v = [] ↔ ∃ a, schema.decode .direct v = .ok a := by
  unfold conformance
  cases schema.decode .direct v <;> simp

theorem partsFirst_eq_nil {parts whole : List Finding} : partsFirst parts whole = [] ↔ parts = [] ∧ whole = [] := by
  cases parts <;> simp [partsFirst]

theorem elements_eq_nil {check : Path → Value → List Finding} {p : Value → Prop}
    (hcheck : ∀ path v, check path v = [] ↔ p v) {path : Path} {v : Value} :
    elements path v check = [] ↔ ∃ items, v = .list items ∧ ∀ item ∈ items, p item := by
  cases v with
  | list items =>
    simp only [elements, List.flatten_eq_nil_iff, List.mem_mapIdx, Value.list.injEq, exists_eq_left']
    constructor
    · intro h item hitem
      obtain ⟨i, hi, rfl⟩ := List.mem_iff_getElem.1 hitem
      exact (hcheck _ _).1 (h _ ⟨i, hi, rfl⟩)
    · rintro h _ ⟨i, hi, rfl⟩
      exact (hcheck _ _).2 (h _ (List.getElem_mem hi))
  | _ => simp [elements]

theorem mapping_eq_nil {path : Path} {v : Value} {check : List (String × Value) → List Finding} :
    mapping path v check = [] ↔ ∃ fields, v = .object fields ∧ check fields = [] := by
  cases v <;> simp [mapping]

section Fields

variable {fields : List (String × Value)} {name : String} {check : Value → List Finding}

theorem present_eq_nil : present fields name check = [] ↔ ∀ v, fields.lookup name = some v → check v = [] := by
  unfold present
  cases fields.lookup name <;> simp

theorem given_eq_nil :
    given fields name check = [] ↔ ∀ v, fields.lookup name = some v → v ≠ .null → check v = [] := by
  rw [given, present_eq_nil]
  refine forall_congr' fun v => imp_congr_right fun _ => ?_
  cases hv : v.isNull with
  | true => simp [Value.isNull_iff.1 hv]
  | false =>
    have hne : v ≠ .null := fun he => by simp [he, Value.isNull] at hv
    simp [hne]

theorem demanded_eq_nil : demanded fields name check = [] ↔ ∃ v, fields.lookup name = some v ∧ check v = [] := by
  unfold demanded
  cases fields.lookup name <;> simp

end Fields

/-! ### Pieces that were read with the whole -/

section Pieces

variable {route : Route} {fields : List (String × Value)} {name : String} {path : Path}

/-- An optional part that was read with the whole is silent. -/
theorem given_conformance_eq_nil {schema : Schema α} {a : Option α}
    (h : (Field.optional name schema).read route (fields.lookup name) = .ok a)
    (hdirect : ∀ v b, fields.lookup name = some v → schema.decode route v = .ok b → schema.decode .direct v = .ok b) :
    given fields name (conformance schema path) = [] := by
  refine given_eq_nil.2 fun v hv hne => conformance_eq_nil.2 ?_
  cases a with
  | none =>
    rcases Field.read_optional_eq_ok_none.1 h with hnone | hnull
    · exact nomatch hv.symm.trans hnone
    · exact absurd (Option.some.inj (hv.symm.trans hnull)) hne
  | some a =>
    obtain ⟨w, hw, -, hdecode⟩ := Field.read_optional_eq_ok_some.1 h
    obtain rfl : v = w := Option.mem_unique hv hw
    exact ⟨a, hdirect v a hv hdecode⟩

/-- The elements of a list that was read with the whole are silent. -/
theorem elements_conformance_eq_nil {element : Schema α} {v : Value} {as : List α}
    (h : (Schema.list element).decode route v = .ok as)
    (hdirect : ∀ v b, element.decode route v = .ok b → element.decode .direct v = .ok b) :
    elements path v (conformance element) = [] := by
  obtain ⟨items, rfl, hitems⟩ := Schema.decode_list_eq_ok.1 h
  have hcheck : ∀ path v, conformance element path v = [] ↔ ∃ a, element.decode .direct v = .ok a :=
    fun _ _ => conformance_eq_nil
  refine (elements_eq_nil hcheck).2 ⟨items, rfl, ?_⟩
  intro item hitem
  obtain ⟨a, -, ha⟩ := exists_of_mem_left hitems hitem
  exact ⟨a, hdirect item a ha⟩

theorem present_elements_eq_nil {element : Schema α} {default as : List α}
    (h : (Field.withDefault name (.list element) default).read .direct (fields.lookup name) = .ok as) :
    present fields name (elements path · (conformance element)) = [] := by
  refine present_eq_nil.2 fun v hv => ?_
  rcases Field.read_defaulted_eq_ok.1 h with ⟨w, hw, hdecode⟩ | ⟨hnone, -⟩
  · obtain rfl : v = w := Option.mem_unique hv hw
    exact elements_conformance_eq_nil hdecode fun _ _ h => h
  · exact nomatch hv.symm.trans hnone

end Pieces

/-! ### Metadata and observability -/

theorem metadata_eq_nil {v : Value} :
    metadata v = [] ↔ v.IsMapping ∧ ∃ m, Metadata.record.decode .direct v = .ok m := by
  simp only [metadata, mapping_eq_nil, partsFirst_eq_nil, conformance_eq_nil]
  constructor
  · rintro ⟨fields, rfl, -, hm⟩
    exact ⟨⟨fields, rfl⟩, hm⟩
  · rintro ⟨⟨fields, rfl⟩, m, hm⟩
    obtain ⟨-, -, -, -, -, howners, hcompliance, hrbac, -⟩ := Record.decode_object_eq_ok.1 hm
    refine ⟨fields, rfl, ?_, m, hm⟩
    rw [present_elements_eq_nil howners, given_conformance_eq_nil hcompliance fun _ _ _ h => h,
      given_conformance_eq_nil hrbac fun _ _ _ h => h]
    rfl

theorem observability_eq_nil {v : Value} :
    observability v = [] ↔ v.IsMapping ∧ ∃ o, Observability.record.decode .direct v = .ok o := by
  simp only [observability, mapping_eq_nil, partsFirst_eq_nil, conformance_eq_nil]
  constructor
  · rintro ⟨fields, rfl, -, ho⟩
    exact ⟨⟨fields, rfl⟩, ho⟩
  · rintro ⟨⟨fields, rfl⟩, o, ho⟩
    obtain ⟨-, -, -, hsampling, -⟩ := Record.decode_object_eq_ok.1 ho
    exact ⟨fields, rfl, given_conformance_eq_nil hsampling fun _ _ _ h => h, o, ho⟩

/-! ### Triggers -/

/-- What an authentication gives for its kind: the field `type`, or the first element of a list. -/
def authKind? : Value → Option Value
  | .object fields => fields.lookup "type"
  | .list items => items.head?
  | _ => none

/-- The trigger is a mapping for requests whose authentication gives the name of its kind with an empty mapping. -/
def HollowAuth (v : Value) : Prop :=
  ∃ auth name, (taggedFields "http" v).lookup "auth" = some auth ∧
    authKind? auth = some (.object [(name, .object [])])

theorem taggedFields_eq_nil_or (tag : String) (v : Value) :
    taggedFields tag v = [] ∨ ∃ fields, v = .object fields ∧ taggedFields tag v = fields ∧
      v.tagged? = some (.string tag, .object (fields.filter (·.1 != tagField))) := by
  cases v with
  | object fields =>
    simp only [taggedFields]
    split
    · rename_i h
      refine Or.inr ⟨fields, rfl, rfl, ?_⟩
      cases htag : fields.lookup tagField with
      | none => simp [htag] at h
      | some tag =>
        rw [htag] at h
        cases tag <;> simp_all [Value.asString?, Value.tagged?]
    · exact Or.inl rfl
  | _ => exact Or.inl rfl

private theorem slots?_auth {v : Value} {slots : List (Option Value)}
    (h : v.slots? .direct HttpAuth.record.names = some slots) : slots.head? = some (authKind? v) := by
  cases v with
  | object fields =>
    cases h
    rfl
  | list items =>
    simp only [Value.slots?] at h
    split at h
    · cases h
      rfl
    · cases h
  | _ => cases h

/-- An authentication that a copy shows is also read from the document, unless it is hollow. -/
theorem HttpAuth.decode_direct {v : Value} {a : HttpAuth} (h : HttpAuth.record.decode .buffered v = .ok a)
    (hv : ∀ name, authKind? v ≠ some (.object [(name, .object [])])) :
    HttpAuth.record.decode .direct v = .ok a := by
  refine Record.decode_direct_of_reads h fun slots hslots hreads => ?_
  have hkind := slots?_auth hslots
  rcases slots with _ | ⟨slot, slots⟩
  · cases hkind
  · obtain ⟨hfirst, hrest⟩ := hreads
    obtain ⟨w, rfl, hw⟩ := Field.read_required_eq_ok.1 hfirst
    have hne : ∀ name, w ≠ .object [(name, .object [])] := fun name he =>
      hv name ((Option.some.inj hkind).symm.trans (congrArg some he))
    refine ⟨Field.read_required_eq_ok.2 ⟨w, rfl, Choices.decode_direct hw hne⟩, ?_⟩
    exact Fields.reads_direct _ (by simp) hrest

theorem HttpAuth.not_hollow_of_decode {v : Value} {a : HttpAuth} (h : HttpAuth.record.decode .direct v = .ok a)
    (name : String) : authKind? v ≠ some (.object [(name, .object [])]) := by
  obtain ⟨slots, hslots, hreads⟩ := Record.decode_eq_ok.1 h
  have hkind := slots?_auth hslots
  rcases slots with _ | ⟨slot, slots⟩
  · cases hkind
  · obtain ⟨w, rfl, hw⟩ := Field.read_required_eq_ok.1 hreads.1
    rw [← Option.some.inj hkind]
    exact fun he => Choices.ne_of_decode_direct hw name (Option.some.inj he)

theorem RateLimit.decode_direct {v : Value} {a : RateLimit} (h : RateLimit.record.decode .buffered v = .ok a) :
    RateLimit.record.decode .direct v = .ok a :=
  Record.decode_direct _ (by simp [RateLimit.record]) h

private theorem decode_http {content : Value} {t : Trigger} {v : Value}
    (htag : v.tagged? = some (.string "http", content)) (h : Trigger.schema.decode .direct v = .ok t) :
    ∃ settings, HttpTrigger.record.decode .buffered content = .ok settings := by
  obtain ⟨tag, rest, hrest, hmember⟩ := Schema.decode_tagged_eq_ok.1 h
  cases htag.symm.trans hrest
  have hhttp : Trigger.variants.decode? "http" content =
      some ((HttpTrigger.record.decode .buffered content).map .inl) := by
    simp [Trigger.variants, Variants.decode?]
  rw [hhttp, Option.some.injEq, map_eq_ok] at hmember
  obtain ⟨settings, hsettings, -⟩ := hmember
  exact ⟨settings, hsettings⟩

theorem trigger_eq_nil {path : Path} {v : Value} :
    trigger path v = [] ↔ (∃ t, Trigger.schema.decode .direct v = .ok t) ∧ ¬HollowAuth v := by
  simp only [trigger, partsFirst_eq_nil, List.append_eq_nil_iff, conformance_eq_nil]
  constructor
  · rintro ⟨⟨hauth, -⟩, ht⟩
    refine ⟨ht, ?_⟩
    rintro ⟨auth, name, hlookup, hkind⟩
    have hne : auth ≠ .null := by
      rintro rfl
      cases hkind
    obtain ⟨a, ha⟩ := conformance_eq_nil.1 (given_eq_nil.1 hauth auth hlookup hne)
    exact HttpAuth.not_hollow_of_decode ha name hkind
  · rintro ⟨⟨t, ht⟩, hhollow⟩
    refine ⟨?_, t, ht⟩
    rcases taggedFields_eq_nil_or "http" v with hnil | ⟨fields, rfl, hfields, htag⟩
    · rw [hnil]
      exact ⟨rfl, rfl⟩
    · -- the whole trigger is read from a copy without its tag
      obtain ⟨settings, hsettings⟩ := decode_http htag ht
      obtain ⟨-, -, hauth, hlimit, -⟩ := Record.decode_object_eq_ok.1 hsettings
      simp only [Field.name, Entries.lookup_filter_ne (by decide : "auth" ≠ tagField)] at hauth
      simp only [Field.name, Entries.lookup_filter_ne (by decide : "rateLimit" ≠ tagField)] at hlimit
      rw [hfields]
      refine ⟨given_conformance_eq_nil hauth fun auth a hlookup ha => ?_,
        given_conformance_eq_nil hlimit fun v b _ h => ?_⟩
      · refine HttpAuth.decode_direct ha fun name hkind => hhollow ⟨auth, name, ?_, hkind⟩
        rw [hfields]
        exact hlookup
      · exact RateLimit.decode_direct h

/-! ### Steps -/

theorem BranchCondition.decode_direct {v : Value} {a : BranchCondition}
    (h : BranchCondition.record.decode .buffered v = .ok a) : BranchCondition.record.decode .direct v = .ok a :=
  Record.decode_direct _ (by simp [BranchCondition.record]) h

private theorem decode_branch {content : Value} {k : StepKind} {v : Value}
    (htag : v.tagged? = some (.string "branch", content)) (h : StepKind.schema.decode .direct v = .ok k) :
    ∃ settings, BranchStep.record.decode .buffered content = .ok settings := by
  obtain ⟨tag, rest, hrest, hmember⟩ := Schema.decode_tagged_eq_ok.1 h
  cases htag.symm.trans hrest
  have hbranch : StepKind.variants.decode? "branch" content =
      some (((((BranchStep.record.decode .buffered content).map .inl).map .inr).map .inr).map .inr |>.map .inr) := by
    simp [StepKind.variants, Variants.decode?]
  rw [hbranch, Option.some.injEq, map_eq_ok] at hmember
  obtain ⟨_, hmember, -⟩ := hmember
  simp only [map_eq_ok] at hmember
  obtain ⟨_, ⟨_, ⟨_, ⟨settings, hsettings, -⟩, -⟩, -⟩, -⟩ := hmember
  exact ⟨settings, hsettings⟩

theorem stepKind_eq_nil {path : Path} {v : Value} :
    stepKind path v = [] ↔ ∃ k, StepKind.schema.decode .direct v = .ok k := by
  simp only [stepKind, partsFirst_eq_nil, conformance_eq_nil]
  refine ⟨fun h => h.2, fun ⟨k, hk⟩ => ⟨?_, k, hk⟩⟩
  rcases taggedFields_eq_nil_or "branch" v with hnil | ⟨fields, rfl, hfields, htag⟩
  · rw [hnil]
    rfl
  · obtain ⟨settings, hsettings⟩ := decode_branch htag hk
    obtain ⟨hconditions, -⟩ := Record.decode_object_eq_ok.1 hsettings
    simp only [Field.name, Entries.lookup_filter_ne (by decide : "conditions" ≠ tagField)] at hconditions
    rw [hfields]
    refine present_eq_nil.2 fun v hv => ?_
    obtain ⟨w, hw, hdecode⟩ := Field.read_required_eq_ok.1 hconditions
    obtain rfl : v = w := Option.mem_unique hv hw
    exact elements_conformance_eq_nil hdecode fun _ _ h => BranchCondition.decode_direct h

theorem step_eq_nil {path : Path} {v : Value} :
    step path v = [] ↔ v.IsMapping ∧ ∃ s, Step.record.decode .direct v = .ok s := by
  simp only [step, mapping_eq_nil, partsFirst_eq_nil, conformance_eq_nil]
  constructor
  · rintro ⟨fields, rfl, -, hs⟩
    exact ⟨⟨fields, rfl⟩, hs⟩
  · rintro ⟨⟨fields, rfl⟩, s, hs⟩
    obtain ⟨-, -, -, haction, htransport, hpolicies, -⟩ := Record.decode_object_eq_ok.1 hs
    refine ⟨fields, rfl, ?_, s, hs⟩
    have hkind : present fields "step" (stepKind (path.field "step")) = [] := by
      refine present_eq_nil.2 fun v hv => stepKind_eq_nil.2 ?_
      obtain ⟨w, hw, hdecode⟩ := Field.read_required_eq_ok.1 haction
      obtain rfl : v = w := Option.mem_unique hv hw
      exact ⟨s.action, hdecode⟩
    rw [hkind, given_conformance_eq_nil htransport fun _ _ _ h => h, present_elements_eq_nil hpolicies]
    rfl

end Structure

end FlowCheck
