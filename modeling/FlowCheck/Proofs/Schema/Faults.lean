import FlowCheck.Proofs.Entries
import FlowCheck.Proofs.Schema.Slots

/-!
# Fields at fault

A field of a structure is at fault in a mapping if it is required and missing, or if the value under its name is
not one of the field (`Fields.Faulty`).  The field `type` of a tagged value is at fault if it is missing or
names no member, and otherwise a field of the member may be (`Schema.Faulty`).

When a mapping is rejected, the mismatch is the reason for a field at fault (`Record.exists_faulty`,
`Schema.exists_faulty`).
-/

namespace FlowCheck

variable {α ρ σ : Type} {route : Route} {entries : List (String × Value)} {reason : Mismatch}

/-! ### Faults -/

/-- The field with the name is at fault in the mapping, for the reason. -/
@[simp] def Fields.Faulty (route : Route) (entries : List (String × Value)) :
    {ρ : Type} → Fields ρ → String → Mismatch → Prop
  | _, .nil, _, _ => False
  | _, .cons field rest, name, reason =>
    field.name = name ∧ field.read route (entries.lookup name) = .error reason ∨
      rest.Faulty route entries name reason

@[simp] def Record.Faulty (route : Route) (entries : List (String × Value)) :
    {α : Type} → Record α → String → Mismatch → Prop
  | _, .of _ fields _ _ _ _, name, reason => fields.Faulty route entries name reason

/-- The field with the name is at fault for the member with the tag. -/
@[simp] def Variants.Faulty (tag : String) (entries : List (String × Value)) :
    {σ : Type} → Variants σ → String → Mismatch → Prop
  | _, .nil, _, _ => False
  | _, .cons own aliases record rest, name, reason =>
    if tag = own ∨ tag ∈ aliases then record.Faulty .buffered entries name reason
    else rest.Faulty tag entries name reason

/-- No member has the tag. -/
@[simp] def Variants.Unknown (tag : String) : {σ : Type} → Variants σ → Prop
  | _, .nil => True
  | _, .cons own aliases _ rest => ¬(tag = own ∨ tag ∈ aliases) ∧ rest.Unknown tag

/-- The field with the name is at fault in a mapping that is read as a structure or as a tagged value. -/
@[simp] def Schema.Faulty (entries : List (String × Value)) : {α : Type} → Schema α → String → Mismatch → Prop
  | _, .record fields, name, reason => fields.Faulty .direct entries name reason
  | _, .tagged _ variants _ _ _ _, name, reason =>
    match entries.lookup tagField with
    | none => name = tagField ∧ reason = .missingField tagField
    | some (.string tag) =>
      name = tagField ∧ variants.Unknown tag ∧ reason = .unknownVariant tag variants.tags ∨
        variants.Faulty tag (entries.filter (·.1 != tagField)) name reason
    | some v => name = tagField ∧ reason = .wrongType v "variant identifier"
  | _, _, _, _ => False

/-! ### The names of fields at fault -/

theorem Fields.Faulty.mem_names : {ρ : Type} → {fields : Fields ρ} → {name : String} →
    fields.Faulty route entries name reason → name ∈ fields.names
  | _, .cons _ _, _, h => by
    rcases h with ⟨rfl, -⟩ | h
    · exact List.mem_cons_self
    · exact List.mem_cons_of_mem _ (Fields.Faulty.mem_names h)

theorem Record.Faulty.mem_names {record : Record α} {name : String} (h : record.Faulty route entries name reason) :
    name ∈ record.names := by
  obtain ⟨_, fields, build, parts, build_parts, parts_build⟩ := record
  exact Fields.Faulty.mem_names h

/-! ### Rejected mappings -/

theorem FieldFaults.exists_first (faults : FieldFaults) (entries : List (String × Value)) :
    ∃ name, (name, faults.first entries) ∈ faults.all := by
  rw [FieldFaults.first]
  cases hfind : entries.findSome? fun entry => faults.all.lookup entry.1 with
  | none => exact ⟨faults.name, List.mem_cons_self⟩
  | some cause =>
    obtain ⟨entry, -, hlookup⟩ := List.exists_of_findSome?_eq_some hfind
    exact ⟨entry.1, Entries.mem_of_lookup hlookup⟩

theorem Fields.faulty_of_mem_all : {ρ : Type} → {fields : Fields ρ} → {faults : FieldFaults} →
    fields.decodeEntries route entries = .error faults →
    ∀ fault ∈ faults.all, fields.Faulty route entries fault.1 fault.2
  | _, .nil, _, h => nomatch h
  | _, .cons field rest, faults, h => by
    have hread : ∀ {cause}, field.decodeEntry route entries = .error cause →
        (Fields.cons field rest).Faulty route entries field.name cause :=
      fun hcause => Or.inl ⟨rfl, by rw [← hcause, Field.decodeEntry_eq]⟩
    rw [Fields.decodeEntries] at h
    cases hfield : field.decodeEntry route entries with
    | ok a =>
      cases hrest : rest.decodeEntries route entries with
      | ok row => simp [hfield, hrest] at h
      | error others =>
        simp only [hfield, hrest, Except.error.injEq] at h
        subst h
        exact fun fault hmem => Or.inr (Fields.faulty_of_mem_all hrest fault hmem)
    | error cause =>
      cases hrest : rest.decodeEntries route entries with
      | ok row =>
        simp only [hfield, hrest, Except.error.injEq] at h
        subst h
        exact List.forall_mem_singleton.2 (hread hfield)
      | error others =>
        simp only [hfield, hrest, Except.error.injEq] at h
        subst h
        exact List.forall_mem_cons.2
          ⟨hread hfield, fun fault hmem => Or.inr (Fields.faulty_of_mem_all hrest fault hmem)⟩

theorem Record.exists_faulty {record : Record α} (h : record.decode route (.object entries) = .error reason) :
    ∃ name, record.Faulty route entries name reason := by
  obtain ⟨_, fields, build, parts, build_parts, parts_build⟩ := record
  rw [Record.decode] at h
  cases hfields : fields.decodeEntries route entries with
  | ok row => simp [hfields] at h
  | error faults =>
    simp only [hfields, Except.error.injEq] at h
    subst h
    obtain ⟨name, hmem⟩ := faults.exists_first entries
    exact ⟨name, Fields.faulty_of_mem_all hfields _ hmem⟩

theorem Variants.unknown_of_decode? {tag : String} {content : Value} : {σ : Type} → {variants : Variants σ} →
    variants.decode? tag content = none → variants.Unknown tag
  | _, .nil, _ => trivial
  | _, .cons own aliases record rest, h => by
    rw [Variants.decode?] at h
    split at h
    · cases h
    · rename_i hne
      exact ⟨hne, Variants.unknown_of_decode? (Option.map_eq_none_iff.1 h)⟩

theorem Variants.exists_faulty {tag : String} : {σ : Type} → {variants : Variants σ} →
    variants.decode? tag (.object entries) = some (.error reason) →
    ∃ name, variants.Faulty tag entries name reason
  | _, .nil, h => nomatch h
  | _, .cons own aliases record rest, h => by
    rw [Variants.decode?] at h
    split at h
    · rename_i htag
      simp only [Variants.Faulty, if_pos htag]
      cases hrecord : record.decode .buffered (.object entries) with
      | ok a => simp [hrecord, Except.map] at h
      | error cause =>
        simp only [hrecord, Except.map, Option.some.injEq, Except.error.injEq] at h
        subst h
        exact Record.exists_faulty hrecord
    · rename_i htag
      simp only [Variants.Faulty, if_neg htag]
      obtain ⟨result, hrest, hmap⟩ := Option.map_eq_some_iff.1 h
      cases result with
      | ok a => cases hmap
      | error cause =>
        cases hmap
        exact Variants.exists_faulty hrest

/-- A tagged value is rejected for the reason of a field at fault. -/
theorem Schema.exists_faulty {name : String} {variants : Variants σ} {build : σ → α} {parts : α → σ}
    {build_parts : ∀ a, build (parts a) = a} {parts_build : ∀ s, parts (build s) = s}
    (h : (Schema.tagged name variants build parts build_parts parts_build).decode route (.object entries) =
      .error reason) :
    ∃ field, (Schema.tagged name variants build parts build_parts parts_build).Faulty entries field reason := by
  simp only [Schema.decode] at h
  simp only [Schema.Faulty]
  cases htag : entries.lookup tagField with
  | none =>
    rw [htag] at h
    cases h
    exact ⟨tagField, rfl, rfl⟩
  | some v =>
    rw [htag] at h
    cases v with
    | string tag =>
      simp only [pure_bind] at h
      cases hmember : variants.decode? tag (.object (entries.filter (·.1 != tagField))) with
      | none =>
        rw [hmember] at h
        cases h
        exact ⟨tagField, Or.inl ⟨rfl, Variants.unknown_of_decode? hmember, rfl⟩⟩
      | some result =>
        rw [hmember] at h
        cases result with
        | ok s => cases h
        | error cause =>
          cases h
          obtain ⟨field, hfaulty⟩ := Variants.exists_faulty hmember
          exact ⟨field, Or.inr hfaulty⟩
    | _ =>
      cases h
      exact ⟨tagField, rfl, rfl⟩

end FlowCheck
