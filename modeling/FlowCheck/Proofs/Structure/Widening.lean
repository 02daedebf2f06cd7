import FlowCheck.Proofs.Grammar.Widening
import FlowCheck.Proofs.Structure.Acceptance

/-!
# Fields that are not known do not matter

A wider document is read as the same flow (`Schema.decode_iff_of_widens`).  The check also asks that the
sections of the document are mappings and that no authentication is hollow; a field more makes no mapping of
what was none, and the fields that say whether an authentication is hollow are all known
(`hollowAuth_iff_of_widens`).  So the check gives the same flow for both documents, or none
(`toOption_check_of_widens`).
-/

namespace FlowCheck

variable {shape : Shape} {v w : Value} {entries entries' : List (String × Value)}

/-! ### What a field more preserves -/

theorem Widens.isMapping_iff (h : Widens shape v w) : v.IsMapping ↔ w.IsMapping := by
  cases h with
  | unknown | field => exact ⟨fun _ => ⟨_, rfl⟩, fun _ => ⟨_, rfl⟩⟩
  | item | element => exact ⟨nofun, nofun⟩

theorem forall_mem_set_iff {p : Value → Prop} {items : List Value} {i : Nat} (hv : items[i]? = some v)
    (h : p v ↔ p w) : (∀ item ∈ items, p item) ↔ ∀ item ∈ items.set i w, p item := by
  induction items generalizing i with
  | nil => cases hv
  | cons first items ih =>
    cases i with
    | zero =>
      cases hv
      simp [h]
    | succ i => simp [ih hv]

/-- A property of the elements of a list that a field more preserves. -/
theorem Widens.forall_items_iff {element : Shape} {p : Value → Prop} (h : Widens (.list element) v w)
    (hp : ∀ {v w}, Widens element v w → (p v ↔ p w)) :
    (∀ items, v = .list items → ∀ item ∈ items, p item) ↔ ∀ items, w = .list items → ∀ item ∈ items, p item := by
  cases h with
  | unknown hknown | field hknown | item hknown => cases hknown
  | element hv h =>
    simp only [Value.list.injEq, forall_eq']
    exact forall_mem_set_iff hv (hp h)

/-- A property of what stands in a place that a field more preserves. -/
theorem Alike.forall_iff {p : Value → Prop} {slot slot' : Option Value} (h : Alike shape slot slot')
    (hp : ∀ {v w}, Widens shape v w → (p v ↔ p w)) : (∀ v, slot = some v → p v) ↔ ∀ v, slot' = some v → p v := by
  rcases h with rfl | ⟨v, w, rfl, rfl, hwidens⟩
  · rfl
  · simp only [Option.some.injEq, forall_eq']
    exact hp hwidens

namespace Structure

/-! ### Hollow authentications -/

theorem authKind?_of_widens (h : Widens (.mapping Grammar.httpAuth) v w) : authKind? v = authKind? w := by
  cases v with
  | object entries =>
    obtain ⟨entries', rfl, halike⟩ := h.lookup_alike rfl (by decide)
    exact (halike _ List.mem_cons_self).eq_of_plain trivial
  | list items =>
    obtain ⟨i, field, v, v', hfield, hv, hwidens, rfl⟩ := h.item_of_list rfl
    cases items with
    | nil => cases hv
    | cons first items =>
      cases i with
      | zero =>
        cases hfield
        exact absurd hwidens (not_widens_of_plain trivial)
      | succ i => rfl
  | _ => cases h

theorem lawful_triggers : MemberShapes.Lawful Grammar.triggers :=
  Trigger.variants.lawful_shapes Trigger.lawful_schema

theorem eq_string_of_bind_asString? {slot : Option Value} {s : String} (h : slot.bind Value.asString? = some s) :
    slot = some (.string s) := by
  obtain ⟨v, rfl, hv⟩ := Option.bind_eq_some_iff.1 h
  cases v <;> cases hv
  rfl

/-- The authentications of triggers for requests are alike. -/
theorem lookup_auth_alike (h : Widens (.family Grammar.triggers) v w) :
    Alike (.mapping Grammar.httpAuth) ((taggedFields "http" v).lookup "auth")
      ((taggedFields "http" w).lookup "auth") := by
  cases v with
  | object entries =>
    obtain ⟨entries', rfl, halike⟩ := h.lookup_alike rfl (lawful_triggers.nodup_known _)
    rw [List.forall_mem_cons] at halike
    have htag : entries.lookup tagField = entries'.lookup tagField := halike.1.eq_of_plain trivial
    simp only [taggedFields, ← htag]
    split
    · rename_i hhttp
      have hlookup : entries.lookup tagField = some (.string "http") :=
        eq_string_of_bind_asString? (eq_of_beq hhttp)
      have hfields : (("auth", .optional, .mapping Grammar.httpAuth) : String × Presence × Shape) ∈
          MemberShapes.fieldsOf Grammar.triggers (.object entries) := by
        rw [MemberShapes.fieldsOf, Value.tagged?, hlookup]
        exact List.mem_of_getElem? (i := 2) rfl
      exact halike.2 _ hfields
    · exact .inl rfl
  | list items =>
    obtain ⟨i, field, v, v', -, -, -, rfl⟩ := h.item_of_list rfl
    exact .inl rfl
  | _ => cases h

theorem hollowAuth_iff_of_widens (h : Widens (.family Grammar.triggers) v w) : HollowAuth v ↔ HollowAuth w := by
  unfold HollowAuth
  rcases lookup_auth_alike h with heq | ⟨auth, auth', hv, hw, hwidens⟩
  · rw [heq]
  · rw [hv, hw]
    simp only [Option.some.injEq, exists_and_left, exists_eq_left', authKind?_of_widens hwidens]

/-! ### The sections of a document -/

/-- What the check asks of a mapping that can be read, section by section. -/
theorem sound_iff :
    (SectionsAreMappings entries ∧ ¬HasHollowAuth entries) ↔
      (∀ v, entries.lookup "metadata" = some v → v.IsMapping) ∧
      (∀ v, entries.lookup "steps" = some v → ∀ items, v = .list items → ∀ item ∈ items, item.IsMapping) ∧
      (∀ v, entries.lookup "observability" = some v → v ≠ .null → v.IsMapping) ∧
      (∀ v, entries.lookup "triggers" = some v → ∀ items, v = .list items → ∀ item ∈ items, ¬HollowAuth item) := by
  constructor
  · rintro ⟨⟨hmetadata, hsteps, hobservability⟩, hhollow⟩
    refine ⟨hmetadata, ?_, hobservability, ?_⟩
    · rintro v hv items rfl
      exact hsteps items hv
    · rintro v hv items rfl item hitem hauth
      exact hhollow ⟨items, hv, item, hitem, hauth⟩
  · rintro ⟨hmetadata, hsteps, hobservability, htriggers⟩
    refine ⟨⟨hmetadata, fun items hitems => hsteps _ hitems items rfl, hobservability⟩, ?_⟩
    rintro ⟨items, hitems, item, hitem, hauth⟩
    exact htriggers _ hitems items rfl item hitem hauth

theorem sound_iff_of_widens (h : Widens Grammar.flow (.object entries) (.object entries')) :
    (SectionsAreMappings entries ∧ ¬HasHollowAuth entries) ↔
      (SectionsAreMappings entries' ∧ ¬HasHollowAuth entries') := by
  obtain ⟨_, heq, halike⟩ := h.lookup_alike rfl (by decide)
  cases heq
  simp only [List.forall_mem_cons] at halike
  obtain ⟨hmetadata, htriggers, hsteps, hobservability, -⟩ := halike
  rw [sound_iff, sound_iff]
  refine and_congr (hmetadata.forall_iff Widens.isMapping_iff) (and_congr ?_ (and_congr ?_ ?_))
  · exact hsteps.forall_iff fun h => h.forall_items_iff Widens.isMapping_iff
  · exact hobservability.forall_iff fun h => imp_congr (iff_of_true h.ne_null.1 h.ne_null.2) h.isMapping_iff
  · exact htriggers.forall_iff fun h => h.forall_items_iff fun h => not_congr (hollowAuth_iff_of_widens h)

/-! ### The check -/

theorem check_eq_ok_iff_of_widens {tree wider : Value} (h : Widens Grammar.flow tree wider) (flow : Flow) :
    check tree = .ok flow ↔ check wider = .ok flow := by
  have hdecode : Flow.record.decode .direct tree = .ok flow ↔ Flow.record.decode .direct wider = .ok flow :=
    Schema.decode_iff_of_widens (.record Flow.record) Flow.lawful_record h
  cases tree with
  | object entries =>
    obtain ⟨entries', rfl, -⟩ := h.lookup_alike rfl (by decide)
    rw [check_object_eq_ok_iff_sections, check_object_eq_ok_iff_sections, hdecode, sound_iff_of_widens h]
  | list items =>
    obtain ⟨i, field, v, v', -, -, -, rfl⟩ := h.item_of_list rfl
    exact iff_of_false nofun nofun
  | _ => cases h

/-- Fields that the model does not know never matter: with one more of them, in whatever mapping that the model takes
for a structure or for the member of a family, a document gives the same flow, or no flow as before. -/
theorem toOption_check_of_widens {tree wider : Value} (h : Widens Grammar.flow tree wider) :
    (check wider).toOption = (check tree).toOption := by
  refine Option.ext fun flow => ?_
  have hok : ∀ result : Except (List Finding) Flow, result.toOption = some flow ↔ result = .ok flow := by
    intro result
    cases result <;> simp [Except.toOption]
  rw [hok, hok, check_eq_ok_iff_of_widens h]

/-- A document with a trigger that is a list, by the fields of its authentication and of the action of its step. -/
def guarded (auth action : List (String × Value)) : Value :=
  .object [("metadata", .object [("name", .string "f"), ("version", .string "1.0.0")]),
    ("steps", .list [.object [("id", .string "a"), ("name", .string "A"), ("step", .object action)]]),
    ("triggers", .list [.list [.string "http", .string "/", .string "POST", .object auth]])]

theorem widens_guarded_auth {auth auth' : List (String × Value)} (action : List (String × Value))
    (h : Widens (.mapping Grammar.httpAuth) (.object auth) (.object auth')) :
    Widens Grammar.flow (guarded auth action) (guarded auth' action) := by
  have htrigger : Widens (.family Grammar.triggers)
      (.list [.string "http", .string "/", .string "POST", .object auth])
      (.list [.string "http", .string "/", .string "POST", .object auth']) :=
    @Widens.item _ [.string "http", .string "/", .string "POST", .object auth] _ 3 _ _ _ rfl rfl rfl h
  have htriggers := @Widens.element _ [.list [.string "http", .string "/", .string "POST", .object auth]] 0 _ _ rfl
    htrigger
  exact @Widens.field _ _ _ ("triggers", .defaulted, .list (.family Grammar.triggers)) _ _ rfl
    (List.mem_of_getElem? (i := 1) rfl) rfl htriggers

theorem widens_guarded_action {action action' : List (String × Value)} (auth : List (String × Value))
    (h : Widens (.family Grammar.stepKinds) (.object action) (.object action')) :
    Widens Grammar.flow (guarded auth action) (guarded auth action') := by
  have hstep : Widens (.mapping Grammar.step)
      (.object [("id", .string "a"), ("name", .string "A"), ("step", .object action)])
      (.object [("id", .string "a"), ("name", .string "A"), ("step", .object action')]) :=
    @Widens.field _ _ _ ("step", .required, .family Grammar.stepKinds) _ _ rfl
      (List.mem_of_getElem? (i := 3) rfl) rfl h
  have hsteps := @Widens.element _ [.object [("id", .string "a"), ("name", .string "A"), ("step", .object action)]] 0
    _ _ rfl hstep
  exact @Widens.field _ _ _ ("steps", .required, .list (.mapping Grammar.step)) _ _ rfl
    (List.mem_of_getElem? (i := 2) rfl) rfl hsteps

/-- The authentication gets a path, a field of the trigger around it, and the branch gets an expression, a field of
another kind of step. -/
theorem toOption_check_of_widens_guarded :
    ∃ tree auth action, Widens Grammar.flow tree auth ∧ Widens Grammar.flow tree action ∧
      (check auth).toOption = (check tree).toOption ∧ (check action).toOption = (check tree).toOption ∧
      (check tree).toOption.isSome = true := by
  have hauth : Widens (.mapping Grammar.httpAuth) (.object [("type", .string "basic")])
      (.object [("path", .bool true), ("type", .string "basic")]) :=
    @Widens.unknown _ _ _ "path" rfl (by decide) (.bool true)
  have haction : Widens (.family Grammar.stepKinds) (.object [("conditions", .list []), ("type", .string "branch")])
      (.object [("conditions", .list []), ("expression", .null), ("type", .string "branch")]) :=
    @Widens.unknown _ _ _ "expression" rfl (by decide) .null
  have hauth' := widens_guarded_auth [("conditions", .list []), ("type", .string "branch")] hauth
  have haction' := widens_guarded_action [("type", .string "basic")] haction
  exact ⟨_, _, _, hauth', haction', toOption_check_of_widens hauth', toOption_check_of_widens haction', by decide⟩

end Structure

end FlowCheck
